import KernelForge.Proofs.Cell
import KernelForge.Proofs.Text.Numeral
import KernelForge.Proofs.Text.Trim
import KernelForge.Tuning.Row

/-!
The written form of a row is read as the row, if the names in it can be told from what stands around them. All names
that are read from a text can, so whatever was read comes back from what is written for it.
-/

namespace KernelForge.Tuning.Row

open Text (joined pieces words)

/-- Whether a name can stand in a row: it is not empty, has no blanks at its ends, and none of the marks that separate
    names and cells. -/
structure IsName (name : String) : Prop where
  filled : name ≠ ""
  trimmed : Text.trim name = name
  comma : ',' ∉ name.toList
  bar : '|' ∉ name.toList

instance (name : String) : Decidable (IsName name) :=
  decidable_of_iff (name ≠ "" ∧ Text.trim name = name ∧ ',' ∉ name.toList ∧ '|' ∉ name.toList)
    ⟨fun ⟨filled, trimmed, comma, bar⟩ => ⟨filled, trimmed, comma, bar⟩,
      fun ⟨filled, trimmed, comma, bar⟩ => ⟨filled, trimmed, comma, bar⟩⟩

/-- Whether all names of a row can stand in it. -/
def Named (row : Row) : Prop :=
  ∀ name ∈ row.cached, IsName name

instance (row : Row) : Decidable row.Named :=
  inferInstanceAs (Decidable (∀ _ ∈ _, _))

/-- Names are the words of a cell. -/
theorem names_eq (cell : String) : names cell = words cell := rfl

/-! ### Names that are read -/

theorem cellValue_eq_ok_iff {text cell : String} {index : Nat} {value : UInt16} :
    cellValue text index cell = .ok value ↔
      ∃ number, Text.readUnsigned 16 (Text.trim cell) = .ok number ∧ UInt16.ofNat number = value := by
  unfold cellValue
  split
  · rename_i number read
    simp [read]
  · rename_i fault read
    simp [read]

/-- A row that is read has the words of the last of five cells as its names. -/
theorem cached_of_parse {text : String} {row : Row} (read : parse text = .ok row) :
    ∃ cell ∈ pieces '|' (inner text), row.cached = words cell := by
  unfold parse at read
  dsimp only at read
  split at read
  · rename_i maxHead parallelization traversal head cached cells
    simp only [bind_ok_iff] at read
    obtain ⟨_, -, _, -, _, -, _, -, made⟩ := read
    cases made
    exact ⟨cached, by simp [cells], names_eq cached⟩
  · cases read

theorem named_of_parse {text : String} {row : Row} (read : parse text = .ok row) : row.Named := by
  obtain ⟨cell, among, same⟩ := cached_of_parse read
  intro name member
  rw [same] at member
  obtain ⟨filled, trimmed, comma, part⟩ := Text.word_of_mem_words member
  exact ⟨filled, trimmed, comma, fun bar => (Text.mem_of_mem_pieces among).1 (part '|' bar)⟩

/-! ### Rows that are written -/

/-- The cells of the written form, with a blank on either side of what stands in them. -/
def cells (row : Row) : List String :=
  [toString row.maxHead.toNat, toString row.parallelization.toNat, toString row.traversal.toNat,
    toString row.head.toNat, joined ", " row.cached].map fun cell => " " ++ cell ++ " "

theorem render_eq (row : Row) : row.render = "|" ++ joined "|" row.cells ++ "|" := by
  have opening : "| " = "|" ++ " " := rfl
  have between : " | " = " " ++ "|" ++ " " := rfl
  have closing : " |" = " " ++ "|" := rfl
  -- The equation of the definition would be compared down to the bytes of the text.
  delta render
  simp only [cells, joined, List.map_cons, List.map_nil, String.intercalate_cons_cons, String.intercalate_singleton,
    Text.toString_self, opening, between, closing, String.append_assoc]

/-- The bars around a text are taken off. -/
theorem inner_barred (text : String) : inner ("|" ++ text ++ "|") = text := by
  have whole : Text.trim ("|" ++ text ++ "|") = "|" ++ text ++ "|" := by
    have spelled : ("|" ++ text ++ "|").toList = '|' :: (text.toList ++ ['|']) := by simp
    have solid : Text.isBlank '|' = false := by decide
    refine Text.trim_of_ends ?_ ?_
    · simp [spelled, solid]
    · rw [spelled, ← List.cons_append, List.getLast?_concat]
      simp [solid]
  rw [inner, whole, String.append_assoc, Text.dropStart_append, Text.dropEnding_append]

theorem bar_not_mem_cells {row : Row} (named : row.Named) : ∀ cell ∈ row.cells, '|' ∉ cell.toList := by
  have digits (number : Nat) : '|' ∉ (" " ++ toString number ++ " ").toList := by
    have plain : '|' ∉ (toString number).toList := (Text.within_numeral number).not_mem (by decide)
    simp only [String.toList_append, List.mem_append, plain, or_false, or_self]
    decide
  have names : '|' ∉ (joined ", " row.cached).toList := by
    have plain : Text.Within (· ≠ '|') (joined ", " row.cached) := by
      refine Text.within_joined (by decide) fun name member character inside => ?_
      rw [decide_eq_true_iff]
      rintro rfl
      exact (named name member).bar inside
    exact plain.not_mem (by decide)
  simp only [cells, List.map_cons, List.map_nil, List.forall_mem_cons, digits, not_false_eq_true, true_and]
  simp [names]

theorem cellValue_padded (text : String) (index : Nat) (value : UInt16) :
    cellValue text index (" " ++ toString value.toNat ++ " ") = .ok value := by
  have blank : Text.Within Text.isBlank " " := by decide
  refine cellValue_eq_ok_iff.mpr ⟨value.toNat, ?_, UInt16.ofNat_toNat⟩
  rw [Text.trim_padded blank blank, Text.trim_numeral]
  exact Text.readUnsigned_numeral value.toNat_lt

/-- The written form of a row is read as the row just if its names can stand in it. -/
theorem parse_render_iff (row : Row) : parse row.render = .ok row ↔ row.Named := by
  refine ⟨named_of_parse, fun named => ?_⟩
  have split : pieces '|' (inner row.render) = row.cells := by
    have bar : "|" = String.singleton '|' := rfl
    rw [render_eq, inner_barred, pieces, bar, Text.splitOn_joined (bar_not_mem_cells named), if_neg (by simp [cells])]
    simp
  have names : words (" " ++ joined ", " row.cached ++ " ") = row.cached :=
    Text.words_joined fun name member =>
      ⟨(named name member).filled, (named name member).trimmed, (named name member).comma⟩
  unfold parse
  simp only [split, cells, List.map_cons, List.map_nil, cellValue_padded, names_eq, names]
  rfl

end KernelForge.Tuning.Row
