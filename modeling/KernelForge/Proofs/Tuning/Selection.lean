import Mathlib.Data.List.Chain
import KernelForge.Attention.Heuristic
import KernelForge.Tuning.BuiltIn

/-!
The row of an attention table that applies to a head dimension. Rows of validated tables do not descend, so the first
row that covers a head dimension has the least dimension that does, and when none does the last row has the greatest one
there is. A pass without rows uses the default ones, which validated tables have, so that there is always an answer, and
a longer head never gets a row with a shorter dimension.
-/

namespace KernelForge.Tuning

/-! ### Tables without findings -/

theorem le_of_rowFindings {table : String} {index : Nat} {previous : Option Row} {row : Row}
    (silent : rowFindings table index previous row = []) : ∀ before ∈ previous, before.maxHead ≤ row.maxHead := by
  obtain ⟨-, order⟩ := List.append_eq_nil_iff.mp silent
  intro before present
  by_contra descends
  rw [if_pos] at order
  · cases order
  · rw [Option.mem_def.mp present, Option.any_some, decide_eq_true_eq]
    exact UInt16.not_le.mp descends

/-- Rows without findings do not descend, neither from the row in front of them. -/
theorem isChain_of_rowsFindings {table : String} {rows : List Row} {index : Nat} {previous : Option Row}
    (silent : rowsFindings table index previous rows = []) :
    (previous.toList ++ rows).IsChain (fun first second => first.maxHead ≤ second.maxHead) := by
  induction rows generalizing index previous with
  | nil => cases previous <;> simp
  | cons row rest ih =>
    obtain ⟨first, later⟩ := List.append_eq_nil_iff.mp silent
    have order := le_of_rowFindings first
    have chain := ih later
    cases previous with
    | none => exact chain
    | some before => exact .cons_cons (order before rfl) chain

/-- A table that has rows, and whose head dimensions do not descend. -/
structure Ordered (rows : List Row) : Prop where
  filled : rows ≠ []
  ascending : rows.Pairwise fun first second => first.maxHead ≤ second.maxHead

theorem ordered_of_tableFindings {table : String} {rows : List Row} (silent : tableFindings table rows = []) :
    Ordered rows := by
  unfold tableFindings at silent
  split at silent
  · cases silent
  · rename_i some
    have : Trans (fun first second : Row => first.maxHead ≤ second.maxHead)
        (fun first second : Row => first.maxHead ≤ second.maxHead)
        (fun first second : Row => first.maxHead ≤ second.maxHead) := ⟨UInt16.le_trans⟩
    exact ⟨fun none => some (List.isEmpty_iff.mpr none), (isChain_of_rowsFindings silent).pairwise⟩

theorem FamilyRows.silent_forFamily {rows : FamilyRows} {name : String} (silent : rows.findings name = [])
    (family : Family) : ∃ table, tableFindings table (rows.forFamily family) = [] := by
  obtain ⟨apple9, legacy⟩ := List.append_eq_nil_iff.mp silent
  unfold forFamily
  split
  · exact ⟨_, apple9⟩
  · exact ⟨_, legacy⟩

/-! ### The answer of a table -/

/-- The row that a table has for a head dimension. -/
inductive Row.Answers (rows : List Row) (head : UInt16) (row : Row) : Prop
  /-- The first of the rows with the least dimension that covers the head. -/
  | covering (before after : List Row) (place : rows = before ++ row :: after) (covers : head ≤ row.maxHead)
    (least : ∀ other ∈ rows, head ≤ other.maxHead → row.maxHead ≤ other.maxHead)
    (first : ∀ other ∈ before, other.maxHead ≠ row.maxHead)
  /-- The last row, which has the greatest dimension, when that of every row is smaller than the head. -/
  | last (before : List Row) (place : rows = before ++ [row]) (smaller : ∀ other ∈ rows, other.maxHead < head)
    (greatest : ∀ other ∈ rows, other.maxHead ≤ row.maxHead)

namespace Ordered

variable {rows : List Row} {head : UInt16} {row : Row}

theorem answers_of_find (ordered : Ordered rows) (found : rows.find? (head ≤ ·.maxHead) = some row) :
    row.Answers rows head := by
  obtain ⟨covers, before, after, place, shorter⟩ := List.find?_eq_some_iff_append.mp found
  simp only [decide_eq_true_eq, Bool.not_eq_true', decide_eq_false_iff_not] at covers shorter
  have ascending := ordered.ascending
  rw [place, List.pairwise_append] at ascending
  obtain ⟨-, later, -⟩ := ascending
  refine .covering before after place covers ?_ ?_
  · intro other member covered
    rw [place, List.mem_append, List.mem_cons] at member
    rcases member with earlier | rfl | behind
    · exact absurd covered (shorter other earlier)
    · exact UInt16.le_refl _
    · exact (List.pairwise_cons.mp later).1 other behind
  · intro other earlier same
    exact shorter other earlier (same ▸ covers)

theorem answers_of_getLast (ordered : Ordered rows) (none : rows.find? (head ≤ ·.maxHead) = none)
    (last : rows.getLast? = some row) : row.Answers rows head := by
  obtain ⟨before, place⟩ := List.getLast?_eq_some_iff.mp last
  have ascending := ordered.ascending
  rw [place, List.pairwise_append] at ascending
  obtain ⟨-, -, order⟩ := ascending
  refine .last before place ?_ ?_
  · intro other member
    have uncovered := List.find?_eq_none.mp none other member
    rw [decide_eq_true_eq] at uncovered
    exact UInt16.not_le.mp uncovered
  · intro other member
    rw [place, List.mem_append, List.mem_singleton] at member
    rcases member with earlier | rfl
    · exact order other earlier row (List.mem_singleton.mpr rfl)
    · exact UInt16.le_refl _

/-- A table in order answers every head dimension. -/
theorem select (ordered : Ordered rows) (head : UInt16) :
    ∃ row, Row.select rows head = .ok row ∧ row.Answers rows head := by
  unfold Row.select Row.select?
  cases found : rows.find? (head ≤ ·.maxHead) with
  | some row => exact ⟨row, rfl, ordered.answers_of_find found⟩
  | none =>
    have last := List.getLast?_eq_some_getLast ordered.filled
    exact ⟨rows.getLast ordered.filled, by rw [last]; rfl, ordered.answers_of_getLast found last⟩

end Ordered

namespace Row.Answers

variable {rows : List Row} {head larger : UInt16} {row other : Row}

theorem mem (answers : row.Answers rows head) : row ∈ rows := by
  cases answers with
  | covering before after place => simp [place]
  | last before place => simp [place]

/-- A longer head is answered by a row with a dimension that is no shorter. -/
theorem monotone (answers : row.Answers rows head) (later : other.Answers rows larger) (longer : head ≤ larger) :
    row.maxHead ≤ other.maxHead := by
  cases later with
  | last _ _ _ greatest => exact greatest row answers.mem
  | covering before after place covers =>
    have among : other ∈ rows := by simp [place]
    have covered : head ≤ other.maxHead := UInt16.le_trans longer covers
    cases answers with
    | covering _ _ _ _ least => exact least other among covered
    | last _ _ smaller => exact absurd covered (UInt16.not_le.mpr (smaller other among))

end Row.Answers

/-! ### Passes without rows -/

/-- Rows of which those of some generations were taken away. -/
structure FamilyRows.Emptied (rows given : FamilyRows) : Prop where
  apple9 : rows.apple9 = [] ∨ rows.apple9 = given.apple9
  legacy : rows.legacy = [] ∨ rows.legacy = given.legacy

/-- Rows of a pass of which some tables were taken away. -/
structure PassTables.Emptied (tables given : PassTables) : Prop where
  mixed : tables.mixed.Emptied given.mixed
  full : tables.full.Emptied given.full

/-- Tables of which any of a pass were taken away; the default ones are still there. -/
structure AttentionTables.Emptied (tables given : AttentionTables) : Prop where
  default : tables.default = given.default
  forward : tables.forward.Emptied given.forward
  backwardQuery : tables.backwardQuery.Emptied given.backwardQuery
  backwardKeyValue : tables.backwardKeyValue.Emptied given.backwardKeyValue

theorem FamilyRows.emptied_refl (rows : FamilyRows) : rows.Emptied rows :=
  ⟨.inr rfl, .inr rfl⟩

theorem PassTables.emptied_refl (tables : PassTables) : tables.Emptied tables :=
  ⟨tables.mixed.emptied_refl, tables.full.emptied_refl⟩

/-- Nothing has to be taken away. -/
theorem AttentionTables.emptied_refl (tables : AttentionTables) : tables.Emptied tables :=
  ⟨rfl, tables.forward.emptied_refl, tables.backwardQuery.emptied_refl, tables.backwardKeyValue.emptied_refl⟩

/-- Everything can be taken away. -/
theorem Tables.emptied_withoutPasses (tables : Tables) : tables.withoutPasses.attention.Emptied tables.attention :=
  have none (given : PassTables) : PassTables.Emptied ⟨⟨[], []⟩, ⟨[], []⟩⟩ given :=
    ⟨⟨.inl rfl, .inl rfl⟩, ⟨.inl rfl, .inl rfl⟩⟩
  ⟨rfl, none _, none _, none _⟩

/-- Rows without findings, or none at all. -/
def Fine (rows : List Row) : Prop :=
  rows = [] ∨ ∃ table, tableFindings table rows = []

theorem FamilyRows.Emptied.fine {rows given : FamilyRows} (emptied : rows.Emptied given) {name : String}
    (silent : given.findings name = []) (family : Family) : Fine (rows.forFamily family) := by
  obtain ⟨table, kept⟩ := FamilyRows.silent_forFamily silent family
  unfold forFamily at kept ⊢
  split
  · rename_i newest
    rw [if_pos newest] at kept
    exact emptied.apple9.imp_right fun same => ⟨table, (congrArg _ same).trans kept⟩
  · rename_i older
    rw [if_neg older] at kept
    exact emptied.legacy.imp_right fun same => ⟨table, (congrArg _ same).trans kept⟩

theorem PassTables.Emptied.fine {tables given : PassTables} (emptied : tables.Emptied given) {name : String}
    (silent : given.findings name = []) (family : Family) :
    Fine (tables.mixed.forFamily family) ∧ Fine (tables.full.forFamily family) := by
  obtain ⟨mixed, full⟩ := List.append_eq_nil_iff.mp silent
  exact ⟨emptied.mixed.fine mixed family, emptied.full.fine full family⟩

end KernelForge.Tuning

namespace KernelForge.Attention

open Tuning (AttentionTables Fine Row Tables tableFindings ordered_of_tableFindings)

/-- Whatever was taken away from validated tables, the rows that apply to a problem are a table without findings: one
    of the pass, or the default one. -/
theorem silent_rows {tables : Tables} (valid : tables.validate = .ok ()) {attention : AttentionTables}
    (emptied : attention.Emptied tables.attention) (problem : Problem) (pass : Pass) (family : Family) :
    ∃ table, tableFindings table (problem.rows pass family attention) = [] := by
  unfold Tables.validate at valid
  split at valid
  · rename_i silent
    simp only [Tables.findings, List.isEmpty_iff, List.append_eq_nil_iff] at silent
    obtain ⟨⟨⟨⟨-, default⟩, forward⟩, backwardQuery⟩, backwardKeyValue⟩ := silent
    have fallback : ∃ table, tableFindings table (attention.default.forFamily family) = [] :=
      emptied.default ▸ Tuning.FamilyRows.silent_forFamily default family
    have ofPass : Fine ((Problem.passTables pass attention).mixed.forFamily family) ∧
        Fine ((Problem.passTables pass attention).full.forFamily family) := by
      unfold Problem.passTables
      split
      · exact emptied.forward.fine forward family
      · split
        · exact emptied.backwardQuery.fine backwardQuery family
        · split
          · exact emptied.backwardKeyValue.fine backwardKeyValue family
          · -- No pass has this code, and there are no rows for it.
            exact ⟨.inl (ite_self _), .inl (ite_self _)⟩
    obtain ⟨mixed, full⟩ := ofPass
    simp only [Problem.rows]
    split
    · split
      · exact fallback
      · rename_i some
        exact mixed.resolve_left fun none => some (List.isEmpty_iff.mpr none)
    · split
      · exact fallback
      · rename_i some
        exact full.resolve_left fun none => some (List.isEmpty_iff.mpr none)
  · cases valid

/-- With validated tables every pass, generation and precision has rows for a problem, also after any tables of passes
    were taken away. They answer every head dimension: with the first of the rows that have the least dimension which
    covers it, or with the last row, which has the greatest, when all are smaller. So a longer head is never answered by
    a row with a shorter dimension. -/
theorem select_of_validate {tables : Tables} (valid : tables.validate = .ok ()) {attention : AttentionTables}
    (emptied : attention.Emptied tables.attention) (problem : Problem) (pass : Pass) (family : Family) :
    problem.rows pass family attention ≠ [] ∧
      (∀ head, ∃ row, Row.select (problem.rows pass family attention) head = .ok row ∧
        row.Answers (problem.rows pass family attention) head) ∧
      ∀ head larger row other, head ≤ larger → Row.select (problem.rows pass family attention) head = .ok row →
        Row.select (problem.rows pass family attention) larger = .ok other → row.maxHead ≤ other.maxHead := by
  obtain ⟨table, silent⟩ := silent_rows valid emptied problem pass family
  have ordered := ordered_of_tableFindings silent
  refine ⟨ordered.filled, ordered.select, ?_⟩
  intro head larger row other longer first second
  obtain ⟨_, selected, answers⟩ := ordered.select head
  obtain ⟨_, later, answered⟩ := ordered.select larger
  obtain rfl := Except.ok.inj (first.symm.trans selected)
  obtain rfl := Except.ok.inj (second.symm.trans later)
  exact answers.monotone answered longer

/-- The built-in tables with three rows for the forward pass, of which the first two have the same dimension. -/
def tiedTables : Tables :=
  { Tables.builtIn with attention := { Tables.builtIn.attention with
      forward := { Tables.builtIn.attention.forward with
        full := ⟨[⟨64, 16, 64, 16, ["Q"]⟩, ⟨64, 16, 32, 8, []⟩, ⟨96, 8, 8, 8, []⟩], [⟨0, 8, 8, 8, []⟩]⟩ } } }

/-- Of two rows with one dimension the first answers; beyond all rows the last one does; and without rows for the passes
    the default ones do. -/
theorem select_of_validate_tied : tiedTables.validate = .ok () ∧
    Row.Answers (Problem.rows { extents := ⟨1, 1, 1⟩ } .forward .apple9 tiedTables.attention) 50
      ⟨64, 16, 64, 16, ["Q"]⟩ ∧
    Row.Answers (Problem.rows { extents := ⟨1, 1, 1⟩ } .forward .apple9 tiedTables.attention) 97 ⟨96, 8, 8, 8, []⟩ ∧
    Row.Answers (Problem.rows { extents := ⟨1, 1, 1⟩ } .forward .apple9 tiedTables.withoutPasses.attention) 97
      ⟨0, 16, 128, 16, []⟩ := by
  have valid : tiedTables.validate = .ok () := by decide +kernel
  obtain ⟨-, answers, -⟩ := select_of_validate valid tiedTables.attention.emptied_refl { extents := ⟨1, 1, 1⟩ } .forward
    .apple9
  obtain ⟨-, fallback, -⟩ := select_of_validate valid tiedTables.emptied_withoutPasses { extents := ⟨1, 1, 1⟩ } .forward
    .apple9
  obtain ⟨row, first, covering⟩ := answers 50
  obtain ⟨last, beyond, greatest⟩ := answers 97
  obtain ⟨default, none, only⟩ := fallback 97
  obtain rfl : ⟨64, 16, 64, 16, ["Q"]⟩ = row := Except.ok.inj first
  obtain rfl : ⟨96, 8, 8, 8, []⟩ = last := Except.ok.inj beyond
  obtain rfl : ⟨0, 16, 128, 16, []⟩ = default := Except.ok.inj none
  exact ⟨valid, covering, greatest, only⟩

end KernelForge.Attention
