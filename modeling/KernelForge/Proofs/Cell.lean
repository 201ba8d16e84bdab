import Mathlib.Data.List.Forall2
import KernelForge.Cell

/-!
What loops over buffers leave behind. A loop that can fail is described by what each of its steps does: a
traversal succeeds when every element does, and a fold keeps an invariant that every step keeps. Stores are
collected in `Written`, which says which cells a loop wrote, what it may have put there, and that it left all
other cells alone. Two stores to one cell are no obstacle as long as both put there what is allowed.
-/

namespace KernelForge

variable {α β σ ε : Type}

@[simp]
theorem ok_bind (value : α) (next : α → Except ε β) : (Except.ok value >>= next) = next value := rfl

@[simp]
theorem error_bind (failure : ε) (next : α → Except ε β) : (Except.error failure >>= next) = .error failure := rfl

theorem bind_ok_iff {first : Except ε α} {next : α → Except ε β} {result : β} :
    first >>= next = .ok result ↔ ∃ value, first = .ok value ∧ next value = .ok result := by
  cases first with
  | error failure => simp [bind, Except.bind]
  | ok value => simp [bind, Except.bind]

theorem mapError_ok {ε' : Type} {result : Except ε α} {change : ε → ε'} {value : α} :
    result.mapError change = .ok value ↔ result = .ok value := by
  cases result <;> simp [Except.mapError]

theorem map_of_bind {γ : Type} (change : β → γ) (first : Except ε α) (next : α → Except ε β) :
    (first >>= next).map change = first >>= fun value => (next value).map change := by
  cases first <;> rfl

/-- A computation that starts by refusing a condition goes on only without it. -/
theorem refuse_ok_iff {condition : Prop} [Decidable condition] {failure : ε} {next : PUnit → Except ε β}
    {rest : Except ε β} {result : β} :
    (if condition then (throw failure : Except ε PUnit) >>= next else rest) = .ok result ↔
      ¬ condition ∧ rest = .ok result := by
  by_cases holds : condition
  · simp [holds, throw, throwThe, MonadExceptOf.throw, bind, Except.bind]
  · simp [holds]

theorem mapM_total (f : α → Except ε β) (relation : α → β → Prop) (inputs : List α)
    (each : ∀ input ∈ inputs, ∃ output, f input = .ok output ∧ relation input output) :
    ∃ outputs, inputs.mapM f = .ok outputs ∧ List.Forall₂ relation inputs outputs := by
  induction inputs with
  | nil => exact ⟨[], rfl, .nil⟩
  | cons head tail ih =>
    obtain ⟨first, read, related⟩ := each head (by simp)
    obtain ⟨rest, traversed, relatedRest⟩ := ih fun input member => each input (by simp [member])
    refine ⟨first :: rest, ?_, .cons related relatedRest⟩
    simp [List.mapM_cons, read, traversed, bind, Except.bind, pure, Except.pure]

theorem exists_right_of_forall₂ {relation : α → β → Prop} {inputs : List α} {outputs : List β}
    (related : List.Forall₂ relation inputs outputs) {input : α} (member : input ∈ inputs) :
    ∃ output ∈ outputs, relation input output := by
  induction related with
  | nil => cases member
  | cons head _ ih =>
    rcases List.mem_cons.mp member with rfl | member
    · exact ⟨_, by simp, head⟩
    · obtain ⟨output, found, related⟩ := ih member
      exact ⟨output, by simp [found], related⟩

theorem exists_left_of_forall₂ {relation : α → β → Prop} {inputs : List α} {outputs : List β}
    (related : List.Forall₂ relation inputs outputs) {output : β} (member : output ∈ outputs) :
    ∃ input ∈ inputs, relation input output :=
  exists_right_of_forall₂ (List.Forall₂.flip (R := flip relation) related) member

/-- A traversal whose results are known is a plain map. -/
theorem mapM_eq_ok_map (f : α → Except ε β) (value : α → β) (inputs : List α)
    (each : ∀ input ∈ inputs, f input = .ok (value input)) :
    inputs.mapM f = .ok (inputs.map value) := by
  induction inputs with
  | nil => rfl
  | cons head tail ih =>
    have traversed := ih fun input member => each input (by simp [member])
    simp [List.mapM_cons, each head (by simp), traversed, bind, Except.bind, pure, Except.pure]

/-- Such a traversal has read every element. -/
theorem eq_ok_of_mapM {f : α → Except ε β} {value : α → β} {inputs : List α}
    (traversed : inputs.mapM f = .ok (inputs.map value)) {input : α} (member : input ∈ inputs) :
    f input = .ok (value input) := by
  induction inputs with
  | nil => cases member
  | cons head tail ih =>
    rw [List.mapM_cons, bind_ok_iff] at traversed
    obtain ⟨first, read, rest⟩ := traversed
    obtain ⟨others, traversedRest, equal⟩ := bind_ok_iff.mp rest
    obtain ⟨rfl, rfl⟩ := List.cons.inj (Except.ok.inj equal)
    rcases List.mem_cons.mp member with rfl | member
    · exact read
    · exact ih traversedRest member

/-- A traversal that succeeds has read its results one by one. -/
theorem forall₂_of_mapM {f : α → Except ε β} {inputs : List α} {outputs : List β}
    (traversed : inputs.mapM f = .ok outputs) :
    List.Forall₂ (fun input output => f input = .ok output) inputs outputs := by
  induction inputs generalizing outputs with
  | nil =>
    cases traversed
    exact .nil
  | cons head tail ih =>
    rw [List.mapM_cons, bind_ok_iff] at traversed
    obtain ⟨first, read, rest⟩ := traversed
    obtain ⟨others, traversedRest, equal⟩ := bind_ok_iff.mp rest
    cases equal
    exact .cons read (ih traversedRest)

theorem mapM_congr {f g : α → Except ε β} {inputs : List α} (each : ∀ input ∈ inputs, f input = g input) :
    inputs.mapM f = inputs.mapM g := by
  induction inputs with
  | nil => rfl
  | cons head tail ih =>
    rw [List.mapM_cons, List.mapM_cons, each head (by simp), ih fun input member => each input (by simp [member])]

/-- What every step of a loop keeps holds at its end. -/
theorem foldlM_keeps {ι : Type} (invariant : σ → Prop) {step : σ → ι → Except ε σ} {items : List ι}
    (each : ∀ item ∈ items, ∀ state next, invariant state → step state item = .ok next → invariant next)
    {state last : σ} (begins : invariant state) (reached : items.foldlM step state = .ok last) : invariant last := by
  induction items generalizing state with
  | nil =>
    cases reached
    exact begins
  | cons head tail ih =>
    rw [List.foldlM_cons] at reached
    obtain ⟨next, stepped, rest⟩ := bind_ok_iff.mp reached
    exact ih (fun item member => each item (by simp [member])) (each head (by simp) state next begins stepped) rest

/-- A loop over the first numbers keeps an invariant that may speak about how far it has come. -/
theorem foldlM_range (step : σ → Nat → Except ε σ) (invariant : Nat → σ → Prop) (count : Nat)
    (advance : ∀ index < count, ∀ state, invariant index state →
      ∃ next, step state index = .ok next ∧ invariant (index + 1) next)
    (start : σ) (begins : invariant 0 start) :
    ∃ last, (List.range count).foldlM step start = .ok last ∧ invariant count last := by
  induction count with
  | zero => exact ⟨start, rfl, begins⟩
  | succ count ih =>
    obtain ⟨middle, reached, held⟩ := ih fun index below => advance index (by omega)
    obtain ⟨last, stepped, kept⟩ := advance count (by omega) middle held
    refine ⟨last, ?_, kept⟩
    simp [List.range_succ, List.foldlM_append, reached, stepped, bind, Except.bind, pure, Except.pure]

/-- As `foldlM_range`, for a counter that starts anywhere. -/
theorem countUp_total (step : σ → Nat → Except Failure σ) (invariant : Nat → σ → Prop) (count start : Nat)
    (advance : ∀ index, start ≤ index → index < start + count → ∀ state, invariant index state →
      ∃ next, step state index = .ok next ∧ invariant (index + 1) next)
    (state : σ) (begins : invariant start state) :
    ∃ last, countUp step count start state = .ok last ∧ invariant (start + count) last := by
  induction count generalizing start state with
  | zero => exact ⟨state, rfl, begins⟩
  | succ count ih =>
    obtain ⟨next, stepped, held⟩ := advance start (Nat.le_refl start) (by omega) state begins
    obtain ⟨last, reached, kept⟩ := ih (start + 1)
      (fun index above below => advance index (by omega) (by omega)) next held
    refine ⟨last, ?_, by rwa [← Nat.add_right_comm] at kept⟩
    rw [countUp, stepped, ok_bind, reached]

/-- Steps over an extent, rounded up: each begins inside it. -/
theorem mul_lt_of_lt_ceil {extent step index : Nat} (positive : 0 < step)
    (below : index < (extent + step - 1) / step) : index * step < extent := by
  have reach := Nat.mul_le_of_le_div step (index + 1) _ below
  rw [Nat.succ_mul] at reach
  omega

/-- Together they cover it. -/
theorem le_ceil_mul {extent step : Nat} (positive : 0 < step) : extent ≤ (extent + step - 1) / step * step := by
  have split := Nat.div_add_mod' (extent + step - 1) step
  have rest := Nat.mod_lt (extent + step - 1) positive
  omega

theorem readCell_ok {buffer : Array α} {index : Nat} {value : α} (found : buffer[index]? = some value) :
    readCell buffer index = .ok value := by
  simp [readCell, found]

theorem getElem?_of_readCell {buffer : Array α} {index : Nat} {value : α} (read : readCell buffer index = .ok value) :
    buffer[index]? = some value := by
  unfold readCell at read
  split at read
  · rename_i found
    exact found.trans (congrArg some (Except.ok.inj read))
  · cases read

theorem readCell_total {buffer : Array α} {index : Nat} (inside : index < buffer.size) :
    ∃ value, buffer[index]? = some value ∧ readCell buffer index = .ok value :=
  ⟨buffer[index], by simp [inside], readCell_ok (by simp [inside])⟩

theorem size_of_writeCell {buffer next : Array α} {index : Nat} {value : α}
    (stored : writeCell buffer index value = .ok next) : next.size = buffer.size := by
  unfold writeCell at stored
  split at stored
  · cases stored
    exact Array.size_setIfInBounds
  · cases stored

/-- From one buffer to the next the cells of a set were written, each with a value that is allowed there,
    and no other cell changed. -/
structure Written (allowed : Nat → α → Prop) (cells : Nat → Prop) (before after : Array α) : Prop where
  size : after.size = before.size
  written : ∀ cell, cells cell → ∃ value, after[cell]? = some value ∧ allowed cell value
  kept : ∀ cell, ¬ cells cell → after[cell]? = before[cell]?

namespace Written

variable {allowed : Nat → α → Prop} {cells later : Nat → Prop} {before middle after : Array α}

theorem refl (buffer : Array α) : Written allowed (fun _ => False) buffer buffer :=
  ⟨rfl, fun _ impossible => impossible.elim, fun _ _ => rfl⟩

theorem trans (first : Written allowed cells before middle) (second : Written allowed later middle after) :
    Written allowed (fun cell => cells cell ∨ later cell) before after := by
  refine ⟨second.size.trans first.size, ?_, ?_⟩
  · intro cell member
    by_cases again : later cell
    · exact second.written cell again
    · obtain ⟨value, found, fine⟩ := first.written cell (member.resolve_right again)
      exact ⟨value, (second.kept cell again).trans found, fine⟩
  · intro cell outside
    rw [not_or] at outside
    rw [second.kept cell outside.2, first.kept cell outside.1]

theorem congr (result : Written allowed cells before after) (same : ∀ cell, cells cell ↔ later cell) :
    Written allowed later before after := by
  have equal : cells = later := funext fun cell => propext (same cell)
  exact equal ▸ result

end Written

theorem writeCell_written {allowed : Nat → α → Prop} {buffer : Array α} {index : Nat} {value : α}
    (inside : index < buffer.size) (fine : allowed index value) :
    ∃ next, writeCell buffer index value = .ok next ∧ Written allowed (· = index) buffer next := by
  refine ⟨buffer.setIfInBounds index value, by simp [writeCell, inside], by simp, ?_, ?_⟩
  · rintro cell rfl
    exact ⟨value, by simp [inside], fine⟩
  · intro cell different
    rw [Array.getElem?_setIfInBounds_ne (Ne.symm different)]

/-- A loop that writes cells at every step writes all of them together. -/
theorem foldlM_written {ι : Type} (allowed : Nat → α → Prop) (step : Array α → ι → Except ε (Array α))
    (cells : ι → Nat → Prop) (items : List ι) (buffer : Array α)
    (each : ∀ item ∈ items, ∀ held : Array α, held.size = buffer.size →
      ∃ next, step held item = .ok next ∧ Written allowed (cells item) held next) :
    ∃ last, items.foldlM step buffer = .ok last ∧
      Written allowed (fun cell => ∃ item ∈ items, cells item cell) buffer last := by
  induction items generalizing buffer with
  | nil => exact ⟨buffer, rfl, (Written.refl buffer).congr (by simp)⟩
  | cons head tail ih =>
    obtain ⟨middle, stepped, first⟩ := each head (by simp) buffer rfl
    obtain ⟨last, folded, rest⟩ := ih middle fun item member held same =>
      each item (by simp [member]) held (same.trans first.size)
    refine ⟨last, ?_, (first.trans rest).congr (by simp)⟩
    simp [List.foldlM_cons, stepped, folded, bind, Except.bind]

/-- The counter of a loop over a rectangle, row by row, gives a row and a column of it. -/
theorem rectangle_bounds {rows columns index : Nat} (below : index < rows * columns) :
    index / columns < rows ∧ index % columns < columns := by
  have positive : 0 < columns := Nat.pos_of_mul_pos_left (Nat.zero_lt_of_lt below)
  exact ⟨Nat.div_lt_of_lt_mul (Nat.mul_comm rows columns ▸ below), Nat.mod_lt _ positive⟩

/-- Every place of a rectangle is met by the counter. -/
theorem rectangle_index {rows columns row column : Nat} (inRows : row < rows) (inColumns : column < columns) :
    row * columns + column < rows * columns ∧ (row * columns + column) / columns = row ∧
      (row * columns + column) % columns = column := by
  have positive : 0 < columns := by omega
  refine ⟨?_, ?_, ?_⟩
  · calc row * columns + column < row * columns + columns := by omega
      _ = (row + 1) * columns := (Nat.succ_mul row columns).symm
      _ ≤ rows * columns := Nat.mul_le_mul_right columns inRows
  · rw [Nat.mul_comm, Nat.mul_add_div positive, Nat.div_eq_of_lt inColumns, Nat.add_zero]
  · rw [Nat.mul_comm, Nat.mul_add_mod, Nat.mod_eq_of_lt inColumns]

/-- The places of a row-major layout are distinct as long as its rows fit the stride. -/
theorem rowMajor_injective {stride row column row' column' : Nat} (fits : column < stride)
    (fits' : column' < stride) (equal : row * stride + column = row' * stride + column') :
    row = row' ∧ column = column' := by
  have first := rectangle_index (Nat.lt_succ_self row) fits
  have second := rectangle_index (Nat.lt_succ_self row') fits'
  rw [equal] at first
  exact ⟨first.2.1.symm.trans second.2.1, first.2.2.symm.trans second.2.2⟩

theorem foldlM_rectangle_written (allowed : Nat → α → Prop) (rows columns : Nat)
    (step : Array α → Nat → Nat → Except ε (Array α)) (cells : Nat → Nat → Nat → Prop) (buffer : Array α)
    (each : ∀ row < rows, ∀ column < columns, ∀ held : Array α, held.size = buffer.size →
      ∃ next, step held row column = .ok next ∧ Written allowed (cells row column) held next) :
    ∃ last, (List.range (rows * columns)).foldlM
        (fun held index => step held (index / columns) (index % columns)) buffer = .ok last ∧
      Written allowed (fun cell => ∃ row < rows, ∃ column < columns, cells row column cell) buffer last := by
  obtain ⟨last, folded, written⟩ := foldlM_written allowed
    (fun held index => step held (index / columns) (index % columns))
    (fun index => cells (index / columns) (index % columns)) (List.range (rows * columns)) buffer
    (by
      intro index member held same
      obtain ⟨inRows, inColumns⟩ := rectangle_bounds (List.mem_range.mp member)
      exact each _ inRows _ inColumns held same)
  refine ⟨last, folded, written.congr fun cell => ⟨?_, ?_⟩⟩
  · rintro ⟨index, member, here⟩
    obtain ⟨inRows, inColumns⟩ := rectangle_bounds (List.mem_range.mp member)
    exact ⟨_, inRows, _, inColumns, here⟩
  · rintro ⟨row, inRows, column, inColumns, here⟩
    obtain ⟨below, quotient, rest⟩ := rectangle_index inRows inColumns
    exact ⟨_, List.mem_range.mpr below, by rwa [quotient, rest]⟩

theorem writeRectangle_written (allowed : Nat → α → Prop) (rows columns : Nat)
    (position : Nat → Nat → Nat) (entry : Nat → Nat → Except Failure α) (buffer : Array α)
    (each : ∀ row < rows, ∀ column < columns, position row column < buffer.size ∧
      ∃ value, entry row column = .ok value ∧ allowed (position row column) value) :
    ∃ last, writeRectangle rows columns position entry buffer = .ok last ∧
      Written allowed (fun cell => ∃ row < rows, ∃ column < columns, cell = position row column)
        buffer last := by
  refine foldlM_rectangle_written allowed rows columns
    (fun held row column => do
      let value ← entry row column
      writeCell held (position row column) value)
    (fun row column cell => cell = position row column) buffer ?_
  intro row inRows column inColumns held same
  obtain ⟨inside, value, read, fine⟩ := each row inRows column inColumns
  obtain ⟨next, stored, written⟩ := writeCell_written (same ▸ inside) fine
  exact ⟨next, by simpa [read, bind, Except.bind] using stored, written⟩

/-- The entries of a rectangle are changed one by one; each result may depend on its place. -/
theorem overRectangle_total (columns : Nat) (rule : Nat → Nat → α → Except Failure α)
    (relation : Nat → α → Prop) (values : List α)
    (each : ∀ index value, values[index]? = some value →
      ∃ result, rule (index / columns) (index % columns) value = .ok result ∧ relation index result) :
    ∃ results, overRectangle columns rule values = .ok results ∧ results.length = values.length ∧
      ∀ index result, results[index]? = some result → relation index result := by
  obtain ⟨results, traversed, related⟩ := mapM_total
    (fun entry => rule (entry.2 / columns) (entry.2 % columns) entry.1)
    (fun entry result => relation entry.2 result) values.zipIdx
    (by
      rintro ⟨value, index⟩ member
      exact each index value (List.mk_mem_zipIdx_iff_getElem?.mp member))
  have lengths : values.length = results.length := by simpa using related.length_eq
  refine ⟨results, traversed, lengths.symm, ?_⟩
  intro index result found
  obtain ⟨below, rfl⟩ := List.getElem?_eq_some_iff.mp found
  simpa using (List.forall₂_iff_get.mp related).2 index (by simpa [lengths] using below) below

end KernelForge
