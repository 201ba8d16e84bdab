import KernelForge.Json.Lexeme
import KernelForge.Json.Printer
import KernelForge.Proofs.Text.Bytes
import Mathlib.Data.List.Basic

/-!
The pieces of JSON text that writing makes, as reading finds them: blanks, strings of plain characters, and the keys of
members. A key that is written is found among the known ones, also where other keys go on from it.
-/

namespace KernelForge.Json

open Text (Within bytesOf)

/-- Nothing but blanks. -/
def Blanks (bytes : List UInt8) : Prop :=
  ∀ byte ∈ bytes, isBlank byte = true

theorem blanks_nil : Blanks [] :=
  List.forall_mem_nil _

theorem skipBlanks_append {blanks : List UInt8} (blank : Blanks blanks) {byte : UInt8} (solid : isBlank byte = false)
    (rest : List UInt8) : skipBlanks (blanks ++ byte :: rest) = byte :: rest := by
  rw [skipBlanks, List.dropWhile_append_of_pos blank, List.dropWhile_cons_of_neg (by simp [solid])]

/-! ### Strings -/

/-- Bytes that stand for themselves in a string. -/
def Inert (bytes : List UInt8) : Prop :=
  ∀ byte ∈ bytes, 0x20 ≤ byte ∧ byte ≠ quoteByte ∧ byte ≠ escapeByte

theorem Inert.cons_iff {byte : UInt8} {rest : List UInt8} :
    Inert (byte :: rest) ↔ (0x20 ≤ byte ∧ byte ≠ quoteByte ∧ byte ≠ escapeByte) ∧ Inert rest :=
  List.forall_mem_cons

theorem ne_zero_of_le {byte : UInt8} (visible : 0x20 ≤ byte) : byte ≠ 0 := by
  rintro rfl
  exact absurd visible (by decide)

theorem afterString?_append {bytes : List UInt8} (inert : Inert bytes) (rest : List UInt8) :
    afterString? (bytes ++ quoteByte :: rest) = some rest := by
  induction bytes with
  | nil => rfl
  | cons byte later ih =>
    obtain ⟨⟨visible, quote, escape⟩, others⟩ := Inert.cons_iff.mp inert
    rw [List.cons_append, afterString?, if_neg (ne_zero_of_le visible), ih others]
    · exact quote
    · exact fun _ _ same => absurd same escape

theorem looseParts?_append {bytes : List UInt8} (inert : Inert bytes) (rest : List UInt8) :
    looseParts? (bytes ++ quoteByte :: rest) = some (bytes.map .byte, rest) := by
  induction bytes with
  | nil => rfl
  | cons byte later ih =>
    obtain ⟨⟨visible, quote, escape⟩, others⟩ := Inert.cons_iff.mp inert
    rw [List.cons_append, looseParts?, ih others]
    · simp [ne_zero_of_le visible]
    · exact quote
    · exact fun _ _ _ _ _ same => absurd same escape
    · exact fun _ _ same => absurd same escape

theorem strictParts?_append {bytes : List UInt8} (inert : Inert bytes) :
    strictParts? (bytes ++ [quoteByte]) = some (bytes.map .byte) := by
  induction bytes with
  | nil => rfl
  | cons byte later ih =>
    obtain ⟨⟨visible, quote, escape⟩, others⟩ := Inert.cons_iff.mp inert
    have seen : ¬byte < 0x20 := UInt8.not_lt.mpr visible
    rw [List.cons_append, strictParts?, ih others]
    · simp [seen, quote]
    · exact fun same => absurd same quote
    · exact fun _ _ _ _ _ same => absurd same escape
    · exact fun _ _ same => absurd same escape

@[simp]
theorem partBytes_map (bytes : List UInt8) : partBytes (bytes.map .byte) = bytes := by
  induction bytes with
  | nil => rfl
  | cons byte rest ih => rw [List.map_cons, partBytes, ih]

/-- A character that is written as it is, and in one byte. -/
def isPlain (character : Char) : Bool :=
  0x20 ≤ character.toNat && character.toNat < 0x7F && !(['"', '\\', '<', '>', '&'].contains character)

theorem isSingle_of_isPlain {character : Char} (plain : isPlain character = true) : Text.isSingle character = true := by
  simp only [isPlain, Bool.and_eq_true, decide_eq_true_eq] at plain
  have below : character.toNat < 0x80 := by omega
  simpa [Text.isSingle] using below

theorem escaped_of_isPlain {character : Char} (plain : isPlain character = true) : escaped character = [character] := by
  unfold escaped
  split
  case h_6 =>
    simp only [isPlain, Bool.and_eq_true, decide_eq_true_eq, Bool.not_eq_true', List.contains_eq_mem,
      decide_eq_false_iff_not, List.mem_cons, not_or] at plain
    obtain ⟨⟨visible, below⟩, -, -, less, greater, ampersand, -⟩ := plain
    have shown : ¬character.toNat < 0x20 := by omega
    have line : character.toNat ≠ 0x2028 := by omega
    have paragraph : character.toNat ≠ 0x2029 := by omega
    simp [shown, less, greater, ampersand, line, paragraph]
  all_goals exact absurd plain (by decide)

section Plain

variable {text : String} (plain : Within isPlain text)

include plain

theorem single_of_plain : Within Text.isSingle text :=
  plain.mono fun _ => isSingle_of_isPlain

theorem inert_bytesOf : Inert (bytesOf text) := by
  rw [Text.bytesOf_of_within (single_of_plain plain)]
  intro byte member
  obtain ⟨character, among, rfl⟩ := List.mem_map.mp member
  have code := Text.toNat_of_isSingle (single_of_plain plain character among)
  have fine := plain character among
  simp only [isPlain, Bool.and_eq_true, decide_eq_true_eq, Bool.not_eq_true', List.contains_eq_mem,
    decide_eq_false_iff_not, List.mem_cons, not_or] at fine
  obtain ⟨⟨visible, -⟩, quote, escape, -⟩ := fine
  refine ⟨UInt8.le_iff_toNat_le.mpr (by rw [code]; exact visible), ?_, ?_⟩
  · intro same
    have equal : character.toNat = '"'.toNat := by rw [← code, same]; rfl
    exact quote (Char.toNat_inj.mp equal)
  · intro same
    have equal : character.toNat = '\\'.toNat := by rw [← code, same]; rfl
    exact escape (Char.toNat_inj.mp equal)

theorem bytesOf_string : bytesOf (string text) = quoteByte :: (bytesOf text ++ [quoteByte]) := by
  have same : text.toList.flatMap escaped = text.toList := by
    rw [List.flatMap_congr fun character member => escaped_of_isPlain (plain character member),
      List.flatMap_singleton' text.toList]
  have spelled : string text = "\"" ++ text ++ "\"" := by
    apply String.toList_injective
    simp [string, same]
  rw [spelled, Text.bytesOf_append, Text.bytesOf_append]
  rfl

end Plain

/-! ### Values that are passed over -/

/-- A value as it is written is what is passed over, without the blanks in front of it. -/
theorem rawValue?_append {mode : Mode} {depth : Nat} {blanks front rest : List UInt8} {byte : UInt8}
    (blank : Blanks blanks) (solid : isBlank byte = false)
    (passed : afterValue? mode depth (byte :: front ++ rest) = some rest) :
    rawValue? mode depth (blanks ++ (byte :: front ++ rest)) = some (byte :: front, rest) := by
  rw [List.cons_append] at passed
  have taken : (byte :: (front ++ rest)).length - rest.length = (byte :: front).length := by
    simp only [List.length_cons, List.length_append]
    omega
  rw [rawValue?, List.cons_append, skipBlanks_append blank solid]
  rw [passed, Option.map_some, taken, ← List.cons_append, List.take_left]

theorem rawValue?_string {mode : Mode} {depth : Nat} {blanks : List UInt8} (blank : Blanks blanks) {text : String}
    (plain : Within isPlain text) (rest : List UInt8) :
    rawValue? mode depth (blanks ++ (bytesOf (string text) ++ rest)) = some (bytesOf (string text), rest) := by
  rw [bytesOf_string plain]
  refine rawValue?_append blank rfl ?_
  rw [List.cons_append, List.append_assoc, List.singleton_append, afterValue?]
  exact afterString?_append (inert_bytesOf plain) rest

/-- A string that is written is read without its quotes. -/
theorem unquoted_string {text : String} (plain : Within isPlain text) :
    unquoted (bytesOf (string text)) = bytesOf text := by
  rw [bytesOf_string plain]
  change ((strictParts? (bytesOf text ++ [quoteByte])).map partBytes).getD _ = _
  rw [strictParts?_append (inert_bytesOf plain), Option.map_some, Option.getD_some, partBytes_map]

/-! ### Keys -/

/-- A plain character that is no capital letter. -/
def isKeyCharacter (character : Char) : Bool :=
  isPlain character && !character.isUpper

theorem isPlain_of_isKeyCharacter {character : Char} (key : isKeyCharacter character = true) :
    isPlain character = true :=
  (Bool.and_eq_true_iff.mp key).1

theorem map_asciiChar_bytesOf {text : String} (single : Within Text.isSingle text) :
    (bytesOf text).map asciiChar = text.toList := by
  rw [Text.bytesOf_of_within single, List.map_map, List.map_congr_left, List.map_id]
  intro character member
  simp only [Function.comp_apply, asciiChar, Text.toNat_of_isSingle (single character member), Char.ofNat_toNat, id]

theorem smallByte_of_mem {key : String} (small : Within isKeyCharacter key) {byte : UInt8}
    (member : byte ∈ bytesOf key) : smallByte byte = byte := by
  have single := single_of_plain (small.mono fun _ => isPlain_of_isKeyCharacter)
  rw [Text.bytesOf_of_within single] at member
  obtain ⟨character, among, rfl⟩ := List.mem_map.mp member
  have code := Text.toNat_of_isSingle (single character among)
  have upper : character.isUpper = false := by simpa using (Bool.and_eq_true_iff.mp (small character among)).2
  rw [smallByte, if_neg]
  rw [Bool.and_eq_true, decide_eq_true_eq, decide_eq_true_eq, UInt8.le_iff_toNat_le, UInt8.le_iff_toNat_le, code]
  rintro ⟨least, greatest⟩
  have capital : character.isUpper = true :=
    decide_eq_true ⟨UInt32.le_iff_toNat_le.mpr least, UInt32.le_iff_toNat_le.mpr greatest⟩
  rw [capital] at upper
  cases upper

theorem isPrefixOf_append (front more bytes : List UInt8) : (front ++ more).isPrefixOf bytes =
    (more.isPrefixOf (bytes.drop front.length) && front.isPrefixOf bytes) := by
  induction front generalizing bytes with
  | nil => simp
  | cons byte front ih =>
    cases bytes with
    | nil => simp
    | cons other bytes =>
      rw [List.cons_append, List.isPrefixOf_cons_cons, List.isPrefixOf_cons_cons, List.length_cons,
        List.drop_succ_cons, ih, Bool.and_left_comm]

/-- Reading a key leaves the known keys that go on from it. -/
theorem keyFrom?_append {mode : Mode} {keys : List String} {key : String} (known : key ∈ keys)
    (small : Within isKeyCharacter key) (rest : List UInt8) :
    ∀ (left front : List UInt8), front ++ left = bytesOf key →
      keyFrom? mode (keys.filter fun other => front.isPrefixOf (bytesOf other)) front.length front.length
          (left ++ quoteByte :: rest) =
        some ((keys.filter fun other => (bytesOf key).isPrefixOf (bytesOf other)).head?.filter fun other =>
          (bytesOf other).length ≤ (bytesOf key).length, rest) := by
  intro left
  induction left with
  | nil =>
    intro front same
    rw [List.append_nil] at same
    rw [same]
    rfl
  | cons byte later ih =>
    intro front same
    have member : byte ∈ bytesOf key := by simp [← same]
    obtain ⟨visible, quote, escape⟩ := inert_bytesOf (small.mono fun _ => isPlain_of_isKeyCharacter) byte member
    -- The byte leaves the keys that go on with it. The one that is read is among them, so the search goes on.
    have kept : keysWith (keys.filter fun other => front.isPrefixOf (bytesOf other)) front.length [byte] =
        keys.filter fun other => (front ++ [byte]).isPrefixOf (bytesOf other) := by
      rw [keysWith, List.map_singleton, smallByte_of_mem small member, List.filter_filter]
      simp only [isPrefixOf_append front [byte]]
    have further := ih (front ++ [byte]) (by rw [← same]; simp)
    rw [List.length_append, List.length_singleton] at further
    have found : key ∈ keys.filter fun other => (front ++ [byte]).isPrefixOf (bytesOf other) := by
      simp [known, ← same]
    rw [List.cons_append, keyFrom?, if_neg (ne_zero_of_le visible), kept]
    · cases candidates : keys.filter fun other => (front ++ [byte]).isPrefixOf (bytesOf other) with
      | nil =>
        rw [candidates] at found
        cases found
      | cons first others =>
        rw [candidates] at further
        exact further
    · exact quote
    · exact fun _ _ _ _ _ same => absurd same escape
    · exact fun _ _ same => absurd same escape

/-- Of the known keys that go on from a known key, the first one is that key. -/
theorem head?_filter_isPrefixOf {keys : List String} {key : String} (known : key ∈ keys)
    (sorted : keys.Pairwise (· ≤ ·)) (single : ∀ other ∈ keys, Within Text.isSingle other) :
    (keys.filter fun other => (bytesOf key).isPrefixOf (bytesOf other)).head? = some key := by
  have found : key ∈ keys.filter fun other => (bytesOf key).isPrefixOf (bytesOf other) := by simp [known]
  cases candidates : keys.filter fun other => (bytesOf key).isPrefixOf (bytesOf other) with
  | nil =>
    rw [candidates] at found
    cases found
  | cons first others =>
    have first_mem : first ∈ keys.filter fun other => (bytesOf key).isPrefixOf (bytesOf other) := by simp [candidates]
    obtain ⟨among, longer⟩ := List.mem_filter.mp first_mem
    have below : first ≤ key := by
      have ordered := sorted.filter fun other => (bytesOf key).isPrefixOf (bytesOf other)
      rw [candidates] at found ordered
      rcases List.mem_cons.mp found with rfl | later
      · exact String.le_refl _
      · exact (List.pairwise_cons.mp ordered).1 key later
    have above : key ≤ first := by
      have characters := (List.isPrefixOf_iff_prefix.mp longer).map asciiChar
      rw [map_asciiChar_bytesOf (single key known), map_asciiChar_bytesOf (single first among)] at characters
      exact characters.le
    rw [List.head?_cons, String.le_antisymm below above]

/-- A written key is found. -/
theorem memberKey?_string {mode : Mode} {keys : List String} (small : ∀ key ∈ keys, Within isKeyCharacter key)
    {key : String} (known : key ∈ keys) {blanks : List UInt8} (blank : Blanks blanks) (rest : List UInt8) :
    memberKey? mode keys (blanks ++ (bytesOf (string key) ++ rest)) = some (some key, rest) := by
  have plain : ∀ other ∈ keys, Within isPlain other :=
    fun other among => (small other among).mono fun _ => isPlain_of_isKeyCharacter
  have sorted : (keys.mergeSort fun first second => first ≤ second).Pairwise (· ≤ ·) := by
    refine (List.pairwise_mergeSort ?_ ?_ keys).imp of_decide_eq_true
    · simpa using fun _ _ _ => String.le_trans
    · simpa using String.le_total
  have kept {other : String} : other ∈ keys.mergeSort (fun first second => first ≤ second) ↔ other ∈ keys :=
    List.mem_mergeSort
  have found := head?_filter_isPrefixOf (kept.mpr known) sorted fun other among =>
    single_of_plain (plain other (kept.mp among))
  have spelled := @keyFrom?_append mode _ key (kept.mpr known) (small key known) rest (bytesOf key) [] rfl
  rw [found, Option.filter_some, if_pos (by simp)] at spelled
  rw [memberKey?, bytesOf_string (plain key known), List.cons_append, skipBlanks_append blank rfl, List.append_assoc,
    List.singleton_append]
  change keyFrom? mode _ 0 0 (bytesOf key ++ quoteByte :: rest) = _
  simpa using spelled

end KernelForge.Json
