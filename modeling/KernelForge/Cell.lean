import KernelForge.Failure

/-!
Buffers as arrays: the check of their length, reading and writing one cell, where a cell beyond the end is a
failure, and filling rectangles row by row.
-/

namespace KernelForge

variable {α : Type}

/-- A buffer that is too short. -/
structure BufferDefect where
  name : String
  length : Nat
  needed : Int64
  deriving DecidableEq, Repr

/-- The wording of a defect. -/
def BufferDefect.message (defect : BufferDefect) : String :=
  s!"{FailureKind.bufferSize.phrase}: {defect.name} has {defect.length} elements, need {defect.needed.toInt}"

/-- The failure that defects are reported as. -/
def BufferDefect.failure (defects : List BufferDefect) : Failure :=
  .joined .bufferSize (defects.map BufferDefect.message)

/-- A buffer has at least the elements it needs. -/
def BufferDefect.check (name : String) (buffer : Array α) (needed : Int64) : List BufferDefect :=
  if (buffer.size : Int) < needed.toInt then [⟨name, buffer.size, needed⟩] else []

/-- The content of a cell. -/
def readCell (buffer : Array α) (index : Nat) : Except Failure α :=
  match buffer[index]? with
  | some value => .ok value
  | none => .error (.indexOutOfRange index buffer.size)

/-- The buffer with one cell changed. -/
def writeCell (buffer : Array α) (index : Nat) (value : α) : Except Failure (Array α) :=
  if index < buffer.size then .ok (buffer.setIfInBounds index value)
  else .error (.indexOutOfRange index buffer.size)

/-- Runs a step for `start`, `start + 1` and so on, as many times as asked; the first failure ends it. -/
@[specialize]
def countUp {σ : Type} (step : σ → Nat → Except Failure σ) : (count start : Nat) → σ → Except Failure σ
  | 0, _, state => .ok state
  | count + 1, start, state => step state start >>= countUp step count (start + 1)

/-- The entries of a rectangle, row by row, each changed by a rule for its place. -/
def overRectangle (columns : Nat) (rule : Nat → Nat → α → Except Failure α) (values : List α) :
    Except Failure (List α) :=
  values.zipIdx.mapM fun (value, index) => rule (index / columns) (index % columns) value

/-- A buffer after the entries of a rectangle were written to the cells that `position` gives. -/
def writeRectangle (rows columns : Nat) (position : Nat → Nat → Nat)
    (entry : Nat → Nat → Except Failure α) (buffer : Array α) : Except Failure (Array α) :=
  (List.range (rows * columns)).foldlM (fun held index => do
    let value ← entry (index / columns) (index % columns)
    writeCell held (position (index / columns) (index % columns)) value) buffer

end KernelForge
