import Mathlib.Data.Nat.Digits.Defs
import Mathlib.Tactic
import KernelForge.Proofs.Text.Cut
import KernelForge.Text.Literal

/-!
The signed decimal numerals and the numbers they denote, apart from any range. Reading one gives the number that it
denotes where 64 bits hold it, and nothing else is read. Numerals that are written are read back as their numbers.
-/

namespace KernelForge.Text

/-- The number of a row of decimal digits, most significant first. -/
def decimal (digits : List Char) : Nat :=
  Nat.ofDigits 10 (digits.reverse.map fun digit => digit.toNat - '0'.toNat)

/-- One or more decimal digits. -/
def IsDecimal (digits : List Char) : Prop :=
  digits ≠ [] ∧ ∀ digit ∈ digits, isDecimalDigit digit = true

theorem isDecimal_iff {digits : List Char} :
    IsDecimal digits ↔ ¬(digits.isEmpty || !digits.all isDecimalDigit) = true := by
  simp [IsDecimal]

instance (digits : List Char) : Decidable (IsDecimal digits) :=
  decidable_of_iff' _ isDecimal_iff

/-- What a numeral with an optional sign denotes. -/
inductive Denotes : List Char → Int → Prop
  | bare {digits : List Char} (row : IsDecimal digits) : Denotes digits (decimal digits)
  | plus {digits : List Char} (row : IsDecimal digits) : Denotes ('+' :: digits) (decimal digits)
  | minus {digits : List Char} (row : IsDecimal digits) : Denotes ('-' :: digits) (-decimal digits)

theorem digitsValue_eq_decimal (digits : List Char) : digitsValue digits = decimal digits := by
  induction digits using List.reverseRecOn with
  | nil => rfl
  | append_singleton front last value =>
    have step : digitsValue (front ++ [last]) = 10 * digitsValue front + (last.toNat - '0'.toNat) := by
      simp only [digitsValue, List.foldl_append, List.foldl_cons, List.foldl_nil]
    rw [step, value, decimal, decimal, List.reverse_append, List.reverse_singleton, List.singleton_append,
      List.map_cons, Nat.ofDigits_cons, Nat.add_comm]

/-- The numeral that is written for a number denotes it. -/
theorem digitsValue_numeral (number : Nat) : digitsValue (toString number).toList = number := by
  rw [Nat.toString_eq_repr, Nat.toList_repr]
  exact Nat.ofDigitChars_ten_toDigits

theorem isDecimal_numeral (number : Nat) : IsDecimal (toString number).toList := by
  refine ⟨?_, fun digit member => ?_⟩
  · rw [Nat.toString_eq_repr, Nat.toList_repr]
    exact Nat.toDigits_ne_nil
  · have digit := within_numeral number digit member
    simpa [Char.isDigit, isDecimalDigit, Char.le_def] using digit

/-- A numeral starts with a digit. -/
theorem spelled_numeral (number : Nat) :
    ∃ first rest, (toString number).toList = first :: rest ∧ first.isDigit = true := by
  have digits := within_numeral number
  unfold Within at digits
  cases spelled : (toString number).toList with
  | nil => exact absurd spelled (isDecimal_numeral number).1
  | cons first rest =>
    rw [spelled] at digits
    exact ⟨first, rest, rfl, digits first List.mem_cons_self⟩

theorem readUnsigned_numeral {bits number : Nat} (fits : number < 2 ^ bits) :
    readUnsigned bits (toString number) = .ok number := by
  rw [readUnsigned, if_neg (isDecimal_iff.mp (isDecimal_numeral number)), digitsValue_numeral]
  exact if_pos fits

/-- The numeral of a positive number does not start with a zero. -/
theorem head?_toDigits_ne_zero {number : Nat} (positive : 0 < number) : (Nat.toDigits 10 number).head? ≠ some '0' := by
  induction number using Nat.strongRecOn with
  | ind number ih =>
    by_cases short : number < 10
    · rw [Nat.toDigits_of_lt_base short]
      interval_cases number <;> simp
    · have front := ih (number / 10) (by omega) (by omega)
      rw [Nat.toDigits_of_base_le (by omega) (by omega), List.head?_append]
      cases digits : Nat.toDigits 10 (number / 10) with
      | nil => exact absurd digits Nat.toDigits_ne_nil
      | cons first later =>
        rw [digits] at front
        simpa using front

theorem hexDigit?_of_isDigit {digit : Char} (decimal : digit.isDigit = true) :
    hexDigit? digit = some (digit.toNat - '0'.toNat) ∧ digit.toNat - '0'.toNat < 10 := by
  have range := Char.isDigit_iff_toNat.mp decimal
  have nine : '9'.toNat = 57 := rfl
  have zero : '0'.toNat = 48 := rfl
  exact ⟨if_pos range, by omega⟩

/-- Decimal digits have the value that they have in base ten. -/
theorem baseValue?_numeral (number : Nat) : baseValue? 10 (toString number).toList = some number := by
  have steps : ∀ (digits : List Char) (held : Nat), (∀ digit ∈ digits, digit.isDigit = true) →
      digits.foldlM (fun value digit => do
        let next ← hexDigit? digit
        if next < 10 then some (10 * value + next) else none) held =
      some (digits.foldl (fun value digit => 10 * value + (digit.toNat - '0'.toNat)) held) := by
    intro digits
    induction digits with
    | nil => exact fun _ _ => rfl
    | cons digit rest ih =>
      intro held each
      obtain ⟨first, later⟩ := List.forall_mem_cons.mp each
      obtain ⟨value, small⟩ := hexDigit?_of_isDigit first
      rw [List.foldlM_cons, value]
      simp only [Option.bind_eq_bind, Option.bind_some, small, if_true]
      exact ih _ later
  rw [baseValue?, if_neg (by simp), steps _ 0 (within_numeral number)]
  exact congrArg Option.some (digitsValue_numeral number)

/-- The numeral of a number tells no other base than ten. -/
theorem magnitude?_numeral (number : Nat) : magnitude? (toString number).toList = some number := by
  obtain rfl | positive := Nat.eq_zero_or_pos number
  · decide
  · have value := baseValue?_numeral number
    have front : (toString number).toList.head? ≠ some '0' := by
      rw [Nat.toString_eq_repr, Nat.toList_repr]
      exact head?_toDigits_ne_zero positive
    generalize (toString number).toList = characters at value front
    unfold magnitude?
    split
    case h_8 => exact value
    all_goals exact absurd rfl front

/-- A row of digits has no sign to split off. -/
theorem IsDecimal.splitSign {digits : List Char} (row : IsDecimal digits) : splitSign digits = (false, digits) := by
  cases digits with
  | nil => rfl
  | cons first rest =>
    have digit := row.2 first (by simp)
    unfold Text.splitSign
    split
    · rename_i spelled
      rw [(List.cons.inj spelled).1] at digit
      exact absurd digit (by decide)
    · rename_i spelled
      rw [(List.cons.inj spelled).1] at digit
      exact absurd digit (by decide)
    · rfl

/-- A numeral is a row of digits behind what is split off as its sign. -/
theorem denotes_iff {characters : List Char} {value : Int} :
    Denotes characters value ↔ IsDecimal (splitSign characters).2 ∧
      value = if (splitSign characters).1 then -(decimal (splitSign characters).2 : Int)
        else decimal (splitSign characters).2 := by
  constructor
  · rintro (row | row | row)
    · simpa [row.splitSign] using row
    · exact ⟨row, rfl⟩
    · exact ⟨row, rfl⟩
  · rintro ⟨row, rfl⟩
    unfold splitSign at row ⊢
    split at row
    · exact .plus row
    · exact .minus row
    · exact .bare row

instance (characters : List Char) (value : Int) : Decidable (Denotes characters value) :=
  decidable_of_iff' _ denotes_iff

/-- A numeral denotes one number. -/
theorem Denotes.unique {characters : List Char} {first second : Int} (one : Denotes characters first)
    (other : Denotes characters second) : first = second :=
  (denotes_iff.mp one).2.trans (denotes_iff.mp other).2.symm

/-- What is read are the numerals of the numbers that fit 64 bits. -/
theorem readSigned_eq_ok_iff {text : String} {value : Int} :
    readSigned text = .ok value ↔ Denotes text.toList value ∧ -2 ^ 63 ≤ value ∧ value < 2 ^ 63 := by
  rw [denotes_iff, readSigned]
  rcases splitSign text.toList with ⟨negative, digits⟩
  simp only [isDecimal_iff, digitsValue_eq_decimal]
  split
  · rename_i refused
    simp [refused]
  · rename_i accepted
    simp only [accepted, Bool.false_eq_true, not_false_eq_true, true_and]
    generalize (if negative = true then -(decimal digits : Int) else decimal digits) = number
    constructor
    · intro read
      split at read
      · rename_i within
        cases read
        rw [Bool.and_eq_true, decide_eq_true_eq, decide_eq_true_eq] at within
        exact ⟨rfl, within⟩
      · cases read
    · rintro ⟨rfl, within⟩
      exact if_pos (by simpa using within)

end KernelForge.Text
