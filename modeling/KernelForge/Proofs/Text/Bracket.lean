import Mathlib.Algebra.BigOperators.Group.List.Basic
import KernelForge.Proofs.Text.Cut
import KernelForge.Text.Decimal

/-!
Brackets of a text. A piece of a text closes some brackets that were opened before it and leaves some open for what
follows; two pieces after each other cancel what the first leaves open against what the second closes. With this as the
product the pairs of numbers are a monoid, so the brackets of a text are worked out piece by piece, however the text
was cut. A text with the unit is well bracketed: no beginning of it closes more than it opened, and nothing is left
open. Line feeds are counted along, so a line that is put together from pieces is seen to be one line.
-/

namespace KernelForge.Text

/-- What a piece of text does to the brackets around it: how many it closes that were open before, and how many it
    leaves open. -/
structure Nesting where
  closes : Nat
  opens : Nat
  deriving DecidableEq, Repr

namespace Nesting

/-- Two pieces after each other: what the first leaves open is closed by the second. -/
def join (first second : Nesting) : Nesting :=
  ⟨first.closes + (second.closes - first.opens), (first.opens - second.closes) + second.opens⟩

instance : One Nesting := ⟨⟨0, 0⟩⟩

instance : Mul Nesting := ⟨join⟩

theorem one_def : (1 : Nesting) = ⟨0, 0⟩ := rfl

theorem mul_def (first second : Nesting) : first * second =
    ⟨first.closes + (second.closes - first.opens), (first.opens - second.closes) + second.opens⟩ := rfl

instance : Monoid Nesting where
  mul_assoc first second third := by
    simp only [mul_def, mk.injEq]
    rcases Nat.le_total first.opens second.closes with short | long
    · rcases Nat.le_total second.opens third.closes with _ | _ <;> omega
    · rcases Nat.le_total second.opens third.closes with _ | _ <;> omega
  one_mul nesting := by simp [mul_def, one_def]
  mul_one nesting := by simp [mul_def, one_def]

/-- One character, for brackets of one kind. -/
def ofChar (opening closing character : Char) : Nesting :=
  if character = opening then ⟨0, 1⟩ else if character = closing then ⟨1, 0⟩ else 1

/-- The characters of a text, for brackets of one kind. -/
def ofChars (opening closing : Char) (characters : List Char) : Nesting :=
  (characters.map (ofChar opening closing)).prod

theorem ofChars_cons (opening closing character : Char) (rest : List Char) :
    ofChars opening closing (character :: rest) =
      ofChar opening closing character * ofChars opening closing rest :=
  List.prod_cons

theorem count_cons {opening closing : Char} (different : opening ≠ closing) (character : Char) (rest : List Char) :
    (character :: rest).count opening = rest.count opening + (ofChar opening closing character).opens ∧
      (character :: rest).count closing = rest.count closing + (ofChar opening closing character).closes := by
  unfold ofChar
  by_cases opens : character = opening
  · subst opens
    simp [List.count_cons_of_ne different]
  · by_cases closes : character = closing
    · subst closes
      simp [opens, List.count_cons_of_ne different.symm]
    · simp [opens, closes, one_def, List.count_cons_of_ne opens, List.count_cons_of_ne closes]

/-- The two numbers bound what any beginning of a text closes, and tell what the whole text leaves. -/
theorem ofChars_spec {opening closing : Char} (different : opening ≠ closing) (characters : List Char) :
    (∀ start, start <+: characters →
      start.count closing ≤ start.count opening + (ofChars opening closing characters).closes) ∧
    characters.count closing + (ofChars opening closing characters).opens =
      characters.count opening + (ofChars opening closing characters).closes := by
  induction characters with
  | nil => simp [ofChars, one_def]
  | cons character rest ih =>
    obtain ⟨within, whole⟩ := ih
    rw [ofChars_cons, mul_def]
    refine ⟨?_, ?_⟩
    · intro start ends
      cases start with
      | nil => simp
      | cons first tail =>
        obtain ⟨rfl, tailEnds⟩ := List.cons_prefix_cons.mp ends
        have bound := within tail tailEnds
        obtain ⟨openings, closings⟩ := count_cons different first tail
        simp only [openings, closings]
        omega
    · obtain ⟨openings, closings⟩ := count_cons different character rest
      simp only [openings, closings]
      omega

end Nesting

/-- Every beginning of a text has at least as many opening as closing brackets of a kind, and the whole text has
    equally many. -/
def Nests (opening closing : Char) (text : String) : Prop :=
  (∀ start, start <+: text.toList → start.count closing ≤ start.count opening) ∧
    text.toList.count opening = text.toList.count closing

/-- What a piece of text does to the braces and to the parentheses around it, and the number of its line feeds. -/
structure Effect where
  braces : Nesting
  parentheses : Nesting
  feeds : Nat
  deriving DecidableEq, Repr

namespace Effect

/-- Two pieces after each other. -/
def join (first second : Effect) : Effect :=
  ⟨first.braces * second.braces, first.parentheses * second.parentheses, first.feeds + second.feeds⟩

instance : One Effect := ⟨⟨1, 1, 0⟩⟩

instance : Mul Effect := ⟨join⟩

theorem one_def : (1 : Effect) = ⟨1, 1, 0⟩ := rfl

theorem mul_def (first second : Effect) : first * second =
    ⟨first.braces * second.braces, first.parentheses * second.parentheses, first.feeds + second.feeds⟩ := rfl

theorem braces_mul (first second : Effect) : (first * second).braces = first.braces * second.braces := rfl

theorem feeds_mul (first second : Effect) : (first * second).feeds = first.feeds + second.feeds := rfl

instance : Monoid Effect where
  mul_assoc first second third := by simp only [mul_def, mul_assoc, Nat.add_assoc]
  one_mul effect := by simp [mul_def, one_def]
  mul_one effect := by simp [mul_def, one_def]

end Effect

/-- Whether a character is a brace, a parenthesis or a line feed. -/
def isCounted (character : Char) : Bool :=
  match character with
  | '{' | '}' | '(' | ')' | '\n' => true
  | _ => false

/-- What characters do to the brackets around them. -/
def turns (characters : List Char) : Effect :=
  ((characters.filter isCounted).map fun character =>
    ⟨Nesting.ofChar '{' '}' character, Nesting.ofChar '(' ')' character, if character = '\n' then 1 else 0⟩).prod

/-- What a text does to the brackets around it. -/
def effect (text : String) : Effect :=
  turns text.toList

theorem turns_eq (characters : List Char) :
    turns characters =
      ⟨Nesting.ofChars '{' '}' characters, Nesting.ofChars '(' ')' characters, characters.count '\n'⟩ := by
  induction characters with
  | nil => rfl
  | cons character rest ih =>
    rw [Nesting.ofChars_cons, Nesting.ofChars_cons]
    by_cases counted : isCounted character = true
    · rw [turns, List.filter_cons_of_pos counted, List.map_cons, List.prod_cons]
      change _ * turns rest = _
      rw [ih, Effect.mul_def, List.count_cons, Nat.add_comm]
      simp only [beq_iff_eq]
    · have bracket : ∀ opening closing, isCounted opening = true → isCounted closing = true →
          Nesting.ofChar opening closing character = 1 := by
        intro opening closing opens closes
        rw [Nesting.ofChar, if_neg, if_neg]
        · rintro rfl
          exact counted closes
        · rintro rfl
          exact counted opens
      have feed : character ≠ '\n' := by
        rintro rfl
        exact counted rfl
      rw [turns, List.filter_cons_of_neg counted, bracket '{' '}' rfl rfl, bracket '(' ')' rfl rfl, one_mul, one_mul,
        List.count_cons_of_ne feed]
      exact ih

/-- A text that closes what it opens, and nothing else. -/
def Balanced (text : String) : Prop :=
  (effect text).braces = 1 ∧ (effect text).parentheses = 1

/-- A text that does nothing to the brackets of a kind around it. -/
theorem nests_of_ofChars {opening closing : Char} (different : opening ≠ closing) {text : String}
    (unit : Nesting.ofChars opening closing text.toList = 1) : Nests opening closing text := by
  obtain ⟨within, whole⟩ := Nesting.ofChars_spec different text.toList
  rw [unit] at within whole
  exact ⟨within, whole.symm⟩

theorem nests_of_braces {text : String} (unit : (effect text).braces = 1) : Nests '{' '}' text := by
  rw [effect, turns_eq] at unit
  exact nests_of_ofChars (by decide) unit

theorem Balanced.nests {text : String} (balanced : Balanced text) : Nests '{' '}' text ∧ Nests '(' ')' text := by
  obtain ⟨braces, parentheses⟩ := balanced
  rw [effect, turns_eq] at parentheses
  exact ⟨nests_of_braces braces, nests_of_ofChars (by decide) parentheses⟩

/-- A text without line feeds. -/
theorem feed_not_mem {text : String} (none : (effect text).feeds = 0) : '\n' ∉ text.toList := by
  rw [effect, turns_eq] at none
  exact List.count_eq_zero.mp none

theorem feeds_of_not_mem {text : String} (none : '\n' ∉ text.toList) : (effect text).feeds = 0 := by
  rw [effect, turns_eq]
  exact List.count_eq_zero.mpr none

theorem braces_of_not_mem {text : String} (opening : '{' ∉ text.toList) (closing : '}' ∉ text.toList) :
    (effect text).braces = 1 := by
  have each : ∀ character ∈ text.toList, Nesting.ofChar '{' '}' character = 1 := by
    intro character member
    rw [Nesting.ofChar, if_neg, if_neg]
    · rintro rfl
      exact closing member
    · rintro rfl
      exact opening member
  rw [effect, turns_eq]
  refine List.prod_eq_one fun nesting among => ?_
  obtain ⟨character, member, rfl⟩ := List.mem_map.mp among
  exact each character member

/-! ### Pieces -/

@[simp ↓]
theorem effect_append (first second : String) : effect (first ++ second) = effect first * effect second := by
  simp [effect, turns]

theorem Balanced.append {first second : String} (left : Balanced first) (right : Balanced second) :
    Balanced (first ++ second) := by
  rw [Balanced, effect_append, Effect.mul_def, left.1, left.2, right.1, right.2]
  exact ⟨one_mul 1, one_mul 1⟩

@[simp]
theorem effect_empty : effect "" = 1 := rfl

/-- The brackets of a literal are counted over its characters. -/
theorem effect_literal {text : String} {characters : List Char} (spelled : text = String.ofList characters) :
    effect text = turns characters := by
  rw [effect, spelled, String.toList_ofList]

/-- A separator without brackets leaves those of the texts between which it stands. -/
theorem effect_joined {separator : String} (neutral : effect separator = 1) (texts : List String) :
    effect (joined separator texts) = (texts.map effect).prod := by
  unfold joined
  induction texts with
  | nil => rfl
  | cons first rest ih =>
    cases rest with
    | nil => simp
    | cons second rest =>
      rw [String.intercalate_cons_cons, effect_append, effect_append, neutral, mul_one, ih]
      exact List.prod_cons.symm

@[simp]
theorem effect_toString (text : String) : effect (toString text) = effect text := rfl

theorem effect_of_within {inside : Char → Bool} {text : String} (within : Within inside text)
    (apart : ∀ character, isCounted character = true → inside character = false) : effect text = 1 := by
  have none : text.toList.filter isCounted = [] := by
    rw [List.filter_eq_nil_iff]
    intro character member counted
    exact within.not_mem (apart character counted) member
  rw [effect, turns, none]
  rfl

theorem of_isCounted {character : Char} (counted : isCounted character = true) :
    character = '{' ∨ character = '}' ∨ character = '(' ∨ character = ')' ∨ character = '\n' := by
  unfold isCounted at counted
  split at counted <;> simp_all

theorem effect_of_digits {text : String} (digits : Within Char.isDigit text) : effect text = 1 := by
  apply effect_of_within digits
  intro character counted
  rcases of_isCounted counted with rfl | rfl | rfl | rfl | rfl <;> rfl

@[simp]
theorem effect_numeral (number : Nat) : effect (toString number) = 1 :=
  effect_of_digits (within_numeral number)

@[simp]
theorem effect_word (number : UInt16) : effect (toString number) = 1 :=
  effect_numeral number.toNat

/-! ### Decimals -/

theorem effect_digitChars {digits : List Nat} (small : ∀ digit ∈ digits, digit < 10) : effect (digitChars digits) = 1 := by
  apply effect_of_digits
  intro character member
  rw [digitChars, String.toList_ofList, List.mem_map] at member
  obtain ⟨digit, among, rfl⟩ := member
  have each : ∀ digit < 10, (Char.ofNat ('0'.toNat + digit)).isDigit = true := by decide
  exact each digit (small digit among)

theorem effect_exponentText (exponent : Int) : effect (exponentText exponent) = 1 := by
  have sign : effect (if exponent < 0 then "-" else "+") = 1 := by
    split <;> rfl
  have magnitude : effect (if (toString exponent.natAbs).length < 2 then "0" ++ toString exponent.natAbs
      else toString exponent.natAbs) = 1 := by
    split
    · rw [effect_append, effect_numeral]
      rfl
    · exact effect_numeral _
  rw [exponentText, effect_append, sign, magnitude, one_mul]

/-- The digits that a number is rounded to. -/
theorem digits_toDigits {value : Binary} {count : Nat} {digit : Nat} (member : digit ∈ (value.toDigits count).digits) :
    digit < 10 := by
  unfold Binary.toDigits at member
  split at member
  · cases member
  · simp only [Decimal.ofScaled, List.mem_reverse] at member
    obtain ⟨character, among, rfl⟩ := List.mem_map.mp (List.mem_reverse.mp (List.dropWhile_subset _ member))
    have digit := Nat.isDigit_of_mem_toDigits (by decide) (by decide) among
    simp only [Char.isDigit, Bool.and_eq_true, decide_eq_true_eq] at digit
    have upper : character.toNat ≤ '9'.toNat := digit.2
    change character.toNat ≤ 57 at upper
    change character.toNat - 48 < 10
    omega

namespace Decimal

variable {decimal : Decimal} (small : ∀ digit ∈ decimal.digits, digit < 10)

include small

theorem effect_scientific : effect decimal.scientific = 1 := by
  unfold scientific
  split
  · rfl
  · rename_i first digits
    rw [digits] at small
    rw [effect_append, effect_append, effect_digitChars small, effect_exponentText]
    rfl
  · rename_i first rest _ digits
    rw [digits] at small
    have head : ∀ digit ∈ [first], digit < 10 := fun digit member => small digit (by simp_all)
    have tail : ∀ digit ∈ rest, digit < 10 := fun digit member => small digit (by simp [member])
    simp only [effect_append, effect_digitChars head, effect_digitChars tail, effect_exponentText]
    rfl

theorem effect_positional : effect decimal.positional = 1 := by
  unfold positional
  split
  · rfl
  · split
    · have zeros : effect (String.ofList (List.replicate (-decimal.point).toNat '0')) = 1 := by
        apply effect_of_digits
        intro character member
        rw [String.toList_ofList] at member
        rw [List.eq_of_mem_replicate member]
        rfl
      rw [effect_append, effect_append, zeros, effect_digitChars small]
      rfl
    · have padded : ∀ digit ∈ decimal.digits.take decimal.point.toNat ++
          List.replicate (decimal.point.toNat - decimal.digits.length) 0, digit < 10 := by
        intro digit member
        rcases List.mem_append.mp member with taken | zero
        · exact small digit (List.mem_of_mem_take taken)
        · rw [List.eq_of_mem_replicate zero]
          decide
      have fraction : ∀ digit ∈ decimal.digits.drop decimal.point.toNat, digit < 10 := fun digit member =>
        small digit (List.mem_of_mem_drop member)
      dsimp only
      rw [effect_append, effect_digitChars padded]
      split
      · rfl
      · rw [effect_append, effect_digitChars fraction]
        rfl

end Decimal

@[simp]
theorem effect_general (count : Nat) (value : Float) : effect (general count value) = 1 := by
  unfold general
  split
  · rfl
  · split <;> rfl
  · rename_i negative binary _
    have small : ∀ digit ∈ (binary.toDigits count).digits, digit < 10 := fun _ => digits_toDigits
    dsimp only
    generalize (if (binary.toDigits count).digits.isEmpty = true then 0 else (binary.toDigits count).point - 1) = exponent
    have text : effect (if (decide (exponent < -4) || decide ((count : Int) ≤ exponent)) = true
        then (binary.toDigits count).scientific else (binary.toDigits count).positional) = 1 := by
      split
      · exact Decimal.effect_scientific small
      · exact Decimal.effect_positional small
    split
    · rw [effect_append, text]
      rfl
    · exact text

end KernelForge.Text
