import KernelForge.Json.Reading
import KernelForge.Json.Value
import KernelForge.Proofs.Json.Lexeme
import KernelForge.Proofs.Text.Numeral
import Mathlib.Tactic.IntervalCases

/-!
Reading takes the text of a value off the front of what is left. Truth values, numbers and names of one line come back
from the text that writing makes of them, in every layout whose items are set apart by blanks.
-/

namespace KernelForge.Json

open Text (Within bytesOf)

/-- A reading takes the front off what is left and gives a value, however many records are open. -/
def Takes {α : Type} (reading : Reading α) (front rest : List UInt8) (value : α) : Prop :=
  ∀ depth, reading ⟨front ++ rest, depth⟩ = .ok (value, ⟨rest, depth⟩)

section Takes

variable {α β : Type} {front back rest : List UInt8} {value : α} {result : β}

theorem takes_pure (value : α) (rest : List UInt8) : Takes (pure value) [] rest value :=
  fun _ => rfl

theorem Takes.bind {reading : Reading α} {next : α → Reading β} (first : Takes reading front (back ++ rest) value)
    (later : Takes (next value) back rest result) : Takes (reading >>= next) (front ++ back) rest result := by
  intro depth
  change (reading ⟨front ++ back ++ rest, depth⟩ >>= fun (value, source) => next value source) = _
  rw [List.append_assoc, first depth]
  exact later depth

/-- The last part of a reading takes nothing. -/
theorem Takes.last {reading : Reading α} {next : α → Reading β} (first : Takes reading front rest value)
    (later : Takes (next value) [] rest result) : Takes (reading >>= next) front rest result := by
  have whole := first.bind later
  rwa [List.append_nil] at whole

theorem takes_found {piece? : Option (α × List UInt8)} (here : piece? = some (value, rest)) :
    Takes (found piece?) front rest value := by
  intro depth
  simp only [found, here]

theorem takes_remaining {read : List UInt8 → Reading α} (taken : Takes (read (front ++ rest)) front rest value) :
    Takes (remaining >>= read) front rest value :=
  taken

theorem takes_nextByte {blanks : List UInt8} (blank : Blanks blanks) {byte : UInt8} (solid : isBlank byte = false)
    (rest : List UInt8) : Takes nextByte (blanks ++ [byte]) rest byte := by
  intro depth
  rw [List.append_assoc, List.singleton_append, nextByte, skipBlanks_append blank solid]

theorem takes_expect {blanks : List UInt8} (blank : Blanks blanks) {byte : UInt8} (solid : isBlank byte = false)
    (rest : List UInt8) : Takes (expect byte) (blanks ++ [byte]) rest () := by
  refine (takes_nextByte blank solid rest).last ?_
  rw [if_neg (not_not.mpr rfl)]
  exact takes_pure () rest

theorem takes_word (mode : Mode) (letters : String) (value : α) (rest : List UInt8) :
    Takes (word mode letters value) (bytesOf letters) rest value := by
  refine takes_remaining (takes_found ?_)
  simp [afterWord?]

theorem takes_readRaw (mode : Mode) {raw : List UInt8}
    (here : ∀ depth, rawValue? mode depth (front ++ rest) = some (raw, rest)) :
    Takes (readRaw mode) front rest raw := by
  intro depth
  change found (rawValue? mode depth (front ++ rest)) _ = _
  simp only [found, here]

end Takes

/-! ### Numerals -/

/-- What does not go on with a digit. -/
def Ends (rest : List UInt8) : Prop :=
  rest.head?.all (!isDigit ·) = true

theorem isBlank_of_isDigit {byte : UInt8} (digit : isDigit byte = true) : isBlank byte = false := by
  rw [Bool.eq_false_iff]
  intro blank
  simp only [isBlank, Bool.or_eq_true, beq_iff_eq] at blank
  rcases blank with ((rfl | rfl) | rfl) | rfl <;> exact absurd digit (by decide)

theorem takes_digits {literal rest : List UInt8} (all : ∀ byte ∈ literal, isDigit byte = true) (ends : Ends rest) :
    Takes digits literal rest literal := by
  refine takes_remaining (takes_found ?_)
  rw [List.takeWhile_append_of_pos all, List.dropWhile_append_of_pos all]
  cases rest with
  | nil => simp
  | cons byte later =>
    have other : isDigit byte = false := by simpa [Ends] using ends
    simp [other]

theorem single_numeral (number : Nat) : Within Text.isSingle (toString number) := by
  refine (Text.within_numeral number).mono fun character digit => ?_
  obtain ⟨-, greatest⟩ := Char.isDigit_iff_toNat.mp digit
  have below : character.toNat < 0x80 := Nat.lt_of_le_of_lt greatest (by decide)
  simpa [Text.isSingle] using below

theorem isDigit_of_mem_numeral {number : Nat} {byte : UInt8} (member : byte ∈ bytesOf (toString number)) :
    isDigit byte = true := by
  rw [Text.bytesOf_of_within (single_numeral number)] at member
  obtain ⟨character, among, rfl⟩ := List.mem_map.mp member
  have code := Text.toNat_of_isSingle (single_numeral number character among)
  have digit := Char.isDigit_iff_toNat.mp (Text.within_numeral number character among)
  rw [isDigit, Bool.and_eq_true, decide_eq_true_eq, decide_eq_true_eq, UInt8.le_iff_toNat_le, UInt8.le_iff_toNat_le,
    code]
  exact digit

theorem digitsValue_numeral (number : Nat) : digitsValue (bytesOf (toString number)) = number := by
  rw [digitsValue, map_asciiChar_bytesOf (single_numeral number), Nat.toString_eq_repr, Nat.toList_repr]
  exact Nat.ofDigitChars_ten_toDigits

/-- The first digit of a positive number is not zero. -/
theorem numeral_of_pos {number : Nat} (positive : 0 < number) :
    ∃ byte later, bytesOf (toString number) = byte :: later ∧ byte ≠ ascii '0' := by
  have spelled : (toString number).toList = Nat.toDigits 10 number := by
    rw [Nat.toString_eq_repr, Nat.toList_repr]
  have other := Text.head?_toDigits_ne_zero positive
  rw [Text.bytesOf_of_within (single_numeral number), spelled]
  cases digits : Nat.toDigits 10 number with
  | nil => exact absurd digits Nat.toDigits_ne_nil
  | cons first later =>
    have code : first.toNat.toUInt8.toNat = first.toNat :=
      Text.toNat_of_isSingle (single_numeral number first (by simp [digits]))
    refine ⟨_, _, rfl, fun zero => ?_⟩
    have equal : first.toNat = '0'.toNat := code.symm.trans (congrArg UInt8.toNat zero)
    rw [digits, Char.toNat_inj.mp equal] at other
    exact other rfl

theorem length_numeral (number : Nat) : (bytesOf (toString number)).length = (Nat.toDigits 10 number).length := by
  rw [Text.bytesOf_of_within (single_numeral number), List.length_map, Nat.toString_eq_repr, Nat.toList_repr]

/-! ### Values -/

/-- Behind any blanks and in a layout, a value is read as a result. -/
def Value.Reads {α : Type} (layout : Layout) (value : Value) (reading : Reading α) (result : α) : Prop :=
  ∀ blanks depth rest, Blanks blanks → Ends rest →
    Takes reading (blanks ++ bytesOf (value.write layout depth)) rest result

variable {layout : Layout}

theorem reads_boolean (mode : Mode) (held value : Bool) :
    (Value.boolean value).Reads layout (readBoolean mode held) value := by
  intro blanks depth rest blank _
  cases value with
  | true =>
    have spelled : bytesOf ((Value.boolean true).write layout depth) = [ascii 't'] ++ bytesOf "rue" := by
      rw [Value.write]
      rfl
    rw [spelled, ← List.append_assoc]
    exact (takes_nextByte blank rfl _).bind (takes_word mode "rue" true rest)
  | false =>
    have spelled : bytesOf ((Value.boolean false).write layout depth) = [ascii 'f'] ++ bytesOf "alse" := by
      rw [Value.write]
      rfl
    rw [spelled, ← List.append_assoc]
    exact (takes_nextByte blank rfl _).bind (takes_word mode "alse" false rest)

theorem reads_natural (mode : Mode) (held : Nat) {bound number : Nat} (below : number < bound)
    (bounded : bound ≤ UInt64.size) : (Value.natural number).Reads layout (readUnsigned mode bound held) number := by
  intro blanks depth rest blank ends
  rw [Value.natural, Value.write]
  obtain rfl | positive := Nat.eq_zero_or_pos number
  · have spelled : bytesOf (toString 0) = [ascii '0'] := rfl
    rw [spelled]
    exact (takes_nextByte blank rfl rest).last (takes_pure 0 rest)
  · obtain ⟨byte, later, spelled, other⟩ := numeral_of_pos positive
    have digit : ∀ byte ∈ bytesOf (toString number), isDigit byte = true := fun _ => isDigit_of_mem_numeral
    have value := digitsValue_numeral number
    have short : (bytesOf (toString number)).length ≤ 20 := by
      rw [length_numeral, Nat.length_toDigits_le_iff (by decide) (by decide)]
      exact Nat.lt_of_lt_of_le (Nat.lt_of_lt_of_le below bounded) (by decide)
    rw [spelled] at digit value short ⊢
    obtain ⟨first, more⟩ := List.forall_mem_cons.mp digit
    have solid := isBlank_of_isDigit first
    have letter : byte ≠ ascii 'n' := by
      rintro rfl
      exact absurd first (by decide)
    rw [← List.singleton_append, ← List.append_assoc]
    refine (takes_nextByte blank solid _).bind ?_
    rw [if_neg letter, if_neg other, if_pos first]
    refine (takes_digits more ends).last ?_
    dsimp only
    rw [value, Nat.mod_eq_of_lt (Nat.lt_of_lt_of_le below bounded), if_pos (by simpa [below] using short)]
    exact takes_pure number rest

theorem reads_named {σ α : Type} (mode : Mode) {name : Named σ α} (record : σ) {text : String} {value : α}
    (plain : Within isPlain text) (known : name.parse text = .ok value) :
    (Value.text text).Reads layout (readNamed mode name record) (name.put record value) := by
  intro blanks depth rest blank _
  rw [Value.write]
  have raw : Takes (readRaw mode) (blanks ++ bytesOf (string text)) rest (bytesOf (string text)) :=
    takes_readRaw mode fun _ => by rw [List.append_assoc]; exact rawValue?_string blank plain rest
  refine raw.last ?_
  have null : bytesOf (string text) ≠ bytesOf "null" := by
    rw [bytesOf_string plain]
    exact fun same => absurd (List.cons.inj same).1 (by decide)
  have quoted :
      ((bytesOf (string text)).head?.any fun byte => byte = ascii '[' || byte = 0x7B || isDigit byte) = false := by
    rw [bytesOf_string plain]
    rfl
  rw [if_neg null, if_neg (by rw [quoted]; exact Bool.false_ne_true), unquoted_string plain,
    Text.ofBytes_bytesOf (single_of_plain plain), known]
  exact takes_pure _ rest

end KernelForge.Json
