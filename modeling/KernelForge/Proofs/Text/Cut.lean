import KernelForge.Precision

/-!
Texts that are put together from pieces and taken apart again. A piece whose characters are all of one class ends
where a character of another class stands, so two such texts that are equal have the same piece in front and the same
rest. Numerals and the names of formats are pieces of this kind, and neither two numbers nor two formats have the same
text.
-/

namespace KernelForge.Text

/-- A text of characters of one class. -/
def Within (inside : Char → Bool) (text : String) : Prop :=
  ∀ character ∈ text.toList, inside character = true

instance (inside : Char → Bool) (text : String) : Decidable (Within inside text) :=
  decidable_of_iff (text.toList.all inside = true) List.all_eq_true

theorem toString_self (text : String) : toString text = text := rfl

theorem within_append {inside : Char → Bool} {first second : String} :
    Within inside (first ++ second) ↔ Within inside first ∧ Within inside second := by
  simp [Within, or_imp, forall_and]

/-- The characters of a literal are looked at one by one. -/
theorem within_literal {inside : Char → Bool} {text : String} {characters : List Char}
    (spelled : text = String.ofList characters) : Within inside text ↔ characters.all inside = true := by
  rw [Within, spelled, String.toList_ofList, List.all_eq_true]

theorem within_joined {inside : Char → Bool} {separator : String} (between : Within inside separator)
    {texts : List String} (each : ∀ text ∈ texts, Within inside text) : Within inside (joined separator texts) := by
  unfold joined
  induction texts with
  | nil => simp [Within]
  | cons first rest ih =>
    have front := each first (by simp)
    have back := ih fun text member => each text (by simp [member])
    cases rest with
    | nil => simpa using front
    | cons second rest =>
      rw [String.intercalate_cons_cons]
      exact within_append.mpr ⟨within_append.mpr ⟨front, between⟩, back⟩

theorem Within.mono {inside wider : Char → Bool} (wide : ∀ character, inside character = true → wider character = true)
    {text : String} (within : Within inside text) : Within wider text :=
  fun character member => wide character (within character member)

theorem Within.not_mem {inside : Char → Bool} {text : String} (within : Within inside text) {character : Char}
    (outside : inside character = false) : character ∉ text.toList := by
  intro member
  rw [within character member] at outside
  cases outside

theorem Within.ne {inside : Char → Bool} {text : String} (within : Within inside text) {character : Char}
    (outside : inside character = false) : Within (· ≠ character) text := by
  intro other member
  rw [decide_eq_true_iff]
  rintro rfl
  exact within.not_mem outside member

theorem takeWhile_append_rest {inside : Char → Bool} {text : String} (within : Within inside text) {rest : List Char}
    (stops : rest.head?.all (!inside ·) = true) : (text.toList ++ rest).takeWhile inside = text.toList := by
  rw [List.takeWhile_append_of_pos within]
  cases rest with
  | nil => simp
  | cons next _ =>
    have outside : inside next = false := by simpa using stops
    simp [outside]

/-- Equal texts have equal pieces in front, if the piece of each goes as far as its class does. -/
theorem cut {inside : Char → Bool} {first second : String} {rest other : List Char} (within : Within inside first)
    (also : Within inside second) (stops : rest.head?.all (!inside ·) = true)
    (ends : other.head?.all (!inside ·) = true) (same : first.toList ++ rest = second.toList ++ other) :
    first = second ∧ rest = other := by
  have piece : first.toList = second.toList := by
    rw [← takeWhile_append_rest within stops, same, takeWhile_append_rest also ends]
  rw [piece] at same
  exact ⟨String.toList_injective piece, List.append_cancel_left same⟩

/-- As `cut`, for three pieces with a separator between them. -/
theorem cut_three {inside : Char → Bool} {separator : Char} (between : inside separator = false)
    {a b c a' b' c' : String} {rest other : List Char} (left : Within inside a ∧ Within inside b ∧ Within inside c)
    (right : Within inside a' ∧ Within inside b' ∧ Within inside c') (stops : rest.head?.all (!inside ·) = true)
    (ends : other.head?.all (!inside ·) = true)
    (same : a.toList ++ separator :: (b.toList ++ separator :: (c.toList ++ rest)) =
      a'.toList ++ separator :: (b'.toList ++ separator :: (c'.toList ++ other))) :
    (a = a' ∧ b = b' ∧ c = c') ∧ rest = other := by
  obtain ⟨first, same⟩ := cut left.1 right.1 (by simp [between]) (by simp [between]) same
  obtain ⟨second, same⟩ := cut left.2.1 right.2.1 (by simp [between]) (by simp [between]) (List.cons.inj same).2
  obtain ⟨third, same⟩ := cut left.2.2 right.2.2 stops ends (List.cons.inj same).2
  exact ⟨⟨first, second, third⟩, same⟩

theorem after?_eq_some_iff {start text rest : String} : after? start text = some rest ↔ text = start ++ rest := by
  unfold after?
  simp only [List.isPrefixOf_iff_prefix]
  constructor
  · intro found
    split at found
    · rename_i front
      obtain ⟨back, spelled⟩ := front
      cases found
      rw [← String.toList_inj, String.toList_append, String.toList_ofList, ← spelled, List.drop_left]
    · cases found
  · rintro rfl
    rw [String.toList_append, if_pos (List.prefix_append _ _), List.drop_left, String.ofList_toList]

theorem dropStart_append (start rest : String) : dropStart start (start ++ rest) = rest := by
  rw [dropStart, after?_eq_some_iff.mpr rfl, Option.getD_some]

theorem within_numeral (number : Nat) : Within Char.isDigit (toString number) := by
  intro character member
  rw [Nat.toString_eq_repr, Nat.toList_repr] at member
  exact Nat.isDigit_of_mem_toDigits (by decide) (by decide) member

theorem numeral_injective {first second : Nat} (same : toString first = toString second) : first = second := by
  have digits : Nat.toDigits 10 first = Nat.toDigits 10 second := by
    simpa [Nat.toString_eq_repr, Nat.toList_repr] using congrArg String.toList same
  rw [← Nat.ofDigitChars_ten_toDigits (n := first), digits, Nat.ofDigitChars_ten_toDigits]

/-- A numeral is not empty, and starts with a digit. -/
theorem head?_numeral_append (number : Nat) (rest : List Char) :
    ((toString number).toList ++ rest).head?.all Char.isDigit = true := by
  have within := within_numeral number
  unfold Within at within
  rw [Nat.toString_eq_repr, Nat.toList_repr] at within ⊢
  cases digits : Nat.toDigits 10 number with
  | nil => exact absurd digits Nat.toDigits_ne_nil
  | cons digit _ =>
    rw [digits] at within
    simpa using within digit (by simp)

/-- Names of which some are fixed words and all others a word with a number in parentheses. -/
theorem numbered_injective {α : Type} [DecidableEq α] (name : α → String) (fixed : List α) (number : α → Nat)
    (word : String) (opens : '(' ∈ word.toList) (plain : ∀ item ∈ fixed, '(' ∉ (name item).toList)
    (apart : ∀ item ∈ fixed, ∀ other ∈ fixed, name item = name other → item = other)
    (numbered : ∀ item ∉ fixed, name item = word ++ toString (number item) ++ ")")
    (numbers : ∀ item other, number item = number other → item = other) {first second : α}
    (same : name first = name second) : first = second := by
  -- A fixed word has no parenthesis.
  have mixed : ∀ item ∈ fixed, ∀ other ∉ fixed, name item ≠ name other := by
    intro item known other unknown equal
    apply plain item known
    rw [equal, numbered other unknown]
    simp [opens]
  by_cases left : first ∈ fixed <;> by_cases right : second ∈ fixed
  · exact apart first left second right same
  · exact absurd same (mixed first left second right)
  · exact absurd same.symm (mixed second right first left)
  · rw [numbered first left, numbered second right] at same
    have numerals := (String.append_right_inj word).mp ((String.append_left_inj ")").mp same)
    exact numbers first second (numeral_injective numerals)

/-- Texts without a separator are found again between the separators. Only no texts at all give an empty text, which
    splits into one piece all the same. -/
theorem splitOn_joined {separator : Char} {texts : List String} (plain : ∀ text ∈ texts, separator ∉ text.toList) :
    (joined (String.singleton separator) texts).toList.splitOn separator =
      if texts = [] then [[]] else texts.map String.toList := by
  by_cases empty : texts = []
  · subst empty
    simp [joined]
  · rw [if_neg empty, joined, String.toList_intercalate, String.toList_singleton]
    refine List.splitOn_intercalate separator ?_ (by simpa using empty)
    intro characters member
    obtain ⟨text, among, rfl⟩ := List.mem_map.mp member
    exact plain text among

theorem joined_injective {separator : Char} {firsts seconds : List String}
    (left : ∀ text ∈ firsts, text ≠ "" ∧ separator ∉ text.toList)
    (right : ∀ text ∈ seconds, text ≠ "" ∧ separator ∉ text.toList)
    (same : joined (String.singleton separator) firsts = joined (String.singleton separator) seconds) :
    firsts = seconds := by
  have equal := splitOn_joined fun text among => (left text among).2
  rw [same, splitOn_joined fun text among => (right text among).2] at equal
  have nonempty : ∀ texts : List String, (∀ text ∈ texts, text ≠ "" ∧ separator ∉ text.toList) →
      texts.map String.toList ≠ [[]] := by
    rintro texts fine lone
    obtain ⟨text, rfl, blank⟩ := List.map_eq_singleton_iff.mp lone
    exact (fine text (by simp)).1 (String.toList_injective blank)
  by_cases none : firsts = [] <;> by_cases alike : seconds = []
  · rw [none, alike]
  · rw [if_pos none, if_neg alike] at equal
    exact absurd equal (nonempty seconds right)
  · rw [if_neg none, if_pos alike] at equal
    exact absurd equal.symm (nonempty firsts left)
  · rw [if_neg none, if_neg alike] at equal
    exact (List.map_inj_right fun _ _ => String.toList_injective).mp equal.symm

end KernelForge.Text

namespace KernelForge

/-- The characters of names: letters, digits and parentheses. -/
def nameCharacter (character : Char) : Bool :=
  character.isAlphanum || character = '(' || character = ')'

theorem nameCharacter_of_isDigit {character : Char} (digit : character.isDigit = true) :
    nameCharacter character = true := by
  simp [nameCharacter, Char.isAlphanum, digit]

namespace Precision

theorem within_name (precision : Precision) : Text.Within nameCharacter precision.name := by
  unfold name
  split
  · decide
  split
  · decide
  split
  · decide
  split
  · decide
  · refine Text.within_append.mpr ⟨Text.within_append.mpr ⟨by decide, ?_⟩, by decide⟩
    exact (Text.within_numeral _).mono fun _ => nameCharacter_of_isDigit

theorem name_injective {first second : Precision} (same : first.name = second.name) : first = second := by
  refine Text.numbered_injective name [fp32, fp16, bf16, unset] (·.code.toNat) "Precision(" (by decide) (by decide)
    (by decide) ?_ ?_ same
  · intro precision other
    simp only [List.mem_cons, List.not_mem_nil, or_false, not_or] at other
    simp [name, other]
    rfl
  · rintro ⟨code⟩ ⟨also⟩ equal
    exact congrArg Precision.mk (UInt8.toNat_inj.mp equal)

end Precision

end KernelForge
