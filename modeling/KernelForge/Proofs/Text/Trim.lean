import Mathlib.Data.List.DropRight
import KernelForge.Proofs.Text.Cut

/-!
Pieces of a text and the blanks around them. Blanks at the ends of a text do not matter to what is left when they are
taken off, and taking them off twice is taking them off once. A text with a separator in it falls into the piece in
front of it and the pieces behind it, and no piece has the separator.
-/

namespace KernelForge.Text

/-! ### Blanks -/

theorem trimChars_eq (characters : List Char) :
    trimChars characters = (characters.dropWhile isBlank).rdropWhile isBlank := rfl

/-- What is left starts and ends with characters that are not blank, so nothing more can be taken off. -/
theorem trimChars_trimChars (characters : List Char) : trimChars (trimChars characters) = trimChars characters := by
  have front : (trimChars characters).dropWhile isBlank = trimChars characters := by
    obtain ⟨behind, whole⟩ := List.rdropWhile_prefix isBlank (l := characters.dropWhile isBlank)
    rw [← trimChars_eq] at whole
    cases left : trimChars characters with
    | nil => rfl
    | cons first rest =>
      have visible := List.head?_dropWhile_not isBlank characters
      rw [← whole, left, List.cons_append, List.head?_cons] at visible
      exact List.dropWhile_cons_of_neg (by simp [visible])
  rw [trimChars_eq, front, trimChars_eq, List.rdropWhile_idempotent]

theorem trim_trim (text : String) : trim (trim text) = trim text := by
  rw [trim, trim, String.toList_ofList, trimChars_trimChars]

theorem trimChars_append_left {before : List Char} (blank : ∀ character ∈ before, isBlank character = true)
    (rest : List Char) : trimChars (before ++ rest) = trimChars rest := by
  rw [trimChars, trimChars, List.dropWhile_append_of_pos blank]

theorem trimChars_append_right {after : List Char} (blank : ∀ character ∈ after, isBlank character = true)
    (front : List Char) : trimChars (front ++ after) = trimChars front := by
  have gone : after.dropWhile isBlank = [] := List.dropWhile_eq_nil_iff.mpr blank
  rw [trimChars, trimChars, List.dropWhile_append]
  split
  · rename_i empty
    rw [gone, List.isEmpty_iff.mp empty]
  · rw [List.reverse_append, List.dropWhile_append_of_pos fun character member => blank character (by simpa using member)]

/-- Blanks around a text do not change what is left of it. -/
theorem trim_padded {before after : String} (front : Within isBlank before) (back : Within isBlank after)
    (text : String) : trim (before ++ text ++ after) = trim text := by
  rw [trim, trim, String.toList_append, String.toList_append, trimChars_append_right back, trimChars_append_left front]

theorem mem_of_mem_trim {text : String} {character : Char} (member : character ∈ (trim text).toList) :
    character ∈ text.toList := by
  rw [trim, String.toList_ofList, trimChars, List.mem_reverse] at member
  have kept := (List.dropWhile_sublist _).subset member
  exact (List.dropWhile_sublist _).subset (List.mem_reverse.mp kept)

/-- A text whose first and last characters are not blank has nothing to take off. -/
theorem trim_of_ends {text : String} (front : ∀ first ∈ text.toList.head?, isBlank first = false)
    (back : ∀ last ∈ text.toList.getLast?, isBlank last = false) : trim text = text := by
  have start : text.toList.dropWhile isBlank = text.toList := by
    cases spelled : text.toList with
    | nil => rfl
    | cons first rest =>
      have solid := front first (by simp [spelled])
      exact List.dropWhile_cons_of_neg (by simp [solid])
  have whole : text.toList.rdropWhile isBlank = text.toList := by
    refine List.rdropWhile_eq_self_iff.mpr fun some => ?_
    have solid := back _ (List.getLast?_eq_some_getLast some)
    simp [solid]
  rw [trim, trimChars_eq, start, whole, String.ofList_toList]

theorem isBlank_of_isDigit {character : Char} (digit : character.isDigit = true) : isBlank character = false := by
  simp only [Char.isDigit, Bool.and_eq_true, decide_eq_true_eq, ge_iff_le, UInt32.le_iff_toNat_le] at digit
  have least : 48 ≤ character.toNat := digit.1
  have greatest : character.toNat ≤ 57 := digit.2
  simp only [isBlank, Bool.or_eq_false_iff, Bool.and_eq_false_iff, decide_eq_false_iff_not, beq_eq_false_iff_ne]
  omega

theorem trim_numeral (number : Nat) : trim (toString number) = toString number := by
  have solid : ∀ digit ∈ (toString number).toList, isBlank digit = false := fun digit member =>
    isBlank_of_isDigit (within_numeral number digit member)
  exact trim_of_ends (fun first member => solid first (List.mem_of_mem_head? member))
    fun last member => solid last (List.mem_of_mem_getLast? member)

theorem dropEnding_append (text ending : String) : dropEnding ending (text ++ ending) = text := by
  rw [dropEnding, String.toList_append, if_pos (List.isSuffixOf_iff_suffix.mpr (List.suffix_append _ _)),
    List.length_append, Nat.add_sub_cancel, List.take_left, String.ofList_toList]

theorem mem_of_mem_dropEnding {text ending : String} {character : Char}
    (member : character ∈ (dropEnding ending text).toList) : character ∈ text.toList := by
  unfold dropEnding at member
  split at member
  · rw [String.toList_ofList] at member
    exact List.mem_of_mem_take member
  · exact member

/-! ### Pieces -/

variable {separator : Char}

theorem pieces_eq_singleton {text : String} (plain : separator ∉ text.toList) : pieces separator text = [text] := by
  rw [pieces, List.splitOn_eq_singleton plain, List.map_singleton, String.ofList_toList]

/-- The piece in front of the first separator. -/
theorem pieces_append {first : String} (plain : separator ∉ first.toList) (rest : String) :
    pieces separator (first ++ String.singleton separator ++ rest) = first :: pieces separator rest := by
  have spelled : (first ++ String.singleton separator ++ rest).toList = first.toList ++ separator :: rest.toList := by
    simp
  rw [pieces, spelled, List.splitOn_append_cons_self_of_not_mem plain, List.map_cons, String.ofList_toList, pieces]

/-- Every piece is a part of the text without a separator. -/
theorem mem_of_mem_pieces {text piece : String} (member : piece ∈ pieces separator text) :
    separator ∉ piece.toList ∧ ∀ character ∈ piece.toList, character ∈ text.toList := by
  obtain ⟨characters, among, rfl⟩ := List.mem_map.mp member
  rw [String.toList_ofList]
  generalize text.toList = all at among
  clear member
  induction all generalizing characters with
  | nil =>
    rw [List.splitOn_nil, List.mem_singleton] at among
    simp [among]
  | cons first rest ih =>
    rw [List.splitOn_cons_eq_if_modifyHead] at among
    split at among
    · rcases List.mem_cons.mp among with rfl | later
      · simp
      · obtain ⟨plain, part⟩ := ih characters later
        exact ⟨plain, fun character inside => List.mem_cons_of_mem _ (part character inside)⟩
    · rename_i other
      have different : separator ≠ first := fun same => other (by simp [same])
      cases spelled : rest.splitOn separator with
      | nil => exact absurd spelled (List.splitOn_ne_nil _ _)
      | cons front behind =>
        rw [spelled, List.modifyHead_cons] at among
        rcases List.mem_cons.mp among with rfl | later
        · obtain ⟨plain, part⟩ := ih front (by simp [spelled])
          exact ⟨by simp [different, plain], List.cons_subset_cons first part⟩
        · obtain ⟨plain, part⟩ := ih characters (by simp [spelled, later])
          exact ⟨plain, fun character inside => List.mem_cons_of_mem _ (part character inside)⟩

/-- The words of a text: what is between its commas, without blanks around it, unless it is blank. -/
def words (text : String) : List String :=
  ((pieces ',' text).map trim).filter (· ≠ "")

theorem mem_words {text word : String} :
    word ∈ words text ↔ word ≠ "" ∧ ∃ piece ∈ pieces ',' text, trim piece = word := by
  simp only [words, List.mem_filter, List.mem_map, decide_eq_true_eq, and_comm]

/-- A word is a part of the text without a comma, and starts and ends with characters that are not blank. -/
theorem word_of_mem_words {text word : String} (member : word ∈ words text) :
    word ≠ "" ∧ trim word = word ∧ ',' ∉ word.toList ∧ ∀ character ∈ word.toList, character ∈ text.toList := by
  obtain ⟨filled, piece, among, rfl⟩ := mem_words.mp member
  obtain ⟨plain, part⟩ := mem_of_mem_pieces among
  exact ⟨filled, trim_trim piece, fun comma => plain (mem_of_mem_trim comma),
    fun character inside => part character (mem_of_mem_trim inside)⟩

/-- Words come back from between commas, with blanks behind the commas and around them all. -/
theorem words_joined {texts : List String} (each : ∀ text ∈ texts, text ≠ "" ∧ trim text = text ∧ ',' ∉ text.toList) :
    words (" " ++ joined ", " texts ++ " ") = texts := by
  have blank : Within isBlank " " := by decide
  induction texts with
  | nil => decide +kernel
  | cons first rest ih =>
    obtain ⟨⟨filled, trimmed, plain⟩, others⟩ := List.forall_mem_cons.mp each
    cases rest with
    | nil =>
      have alone : ',' ∉ (" " ++ first ++ " ").toList := by simp [plain]
      rw [joined, String.intercalate_singleton, words, pieces_eq_singleton alone, List.map_singleton,
        trim_padded blank blank, trimmed]
      simp [filled]
    | cons second rest =>
      have front : ',' ∉ (" " ++ first).toList := by simp [plain]
      have left : trim (" " ++ first) = first := by
        have padded := @trim_padded " " "" blank (by decide) first
        rwa [String.append_empty, trimmed] at padded
      have spelled : " " ++ joined ", " (first :: second :: rest) ++ " " =
          " " ++ first ++ String.singleton ',' ++ (" " ++ joined ", " (second :: rest) ++ " ") := by
        have comma : ", " = String.singleton ',' ++ " " := rfl
        rw [joined, String.intercalate_cons_cons, joined, comma]
        simp only [String.append_assoc]
      have later := ih others
      rw [words] at later ⊢
      rw [spelled, pieces_append front, List.map_cons, left, List.filter_cons_of_pos (by simp [filled]), later]

end KernelForge.Text
