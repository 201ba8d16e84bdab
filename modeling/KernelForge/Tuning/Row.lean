import KernelForge.Failure
import KernelForge.Text.Blank
import KernelForge.Text.Numeral

/-!
One line of an attention table: up to which head dimension it applies, the three block dimensions, and the
operands that stay in registers. Its written form is five cells between bars. Reading accepts any blanks
around cells and names, a missing bar at either end and empty names; writing gives the one form with single
blanks.
-/

namespace KernelForge.Tuning

/-- A line of an attention table. -/
structure Row where
  maxHead : UInt16
  parallelization : UInt16
  traversal : UInt16
  head : UInt16
  /-- The operands held in registers across the traversal, as they are named in the table. -/
  cached : List String := []
  deriving DecidableEq, Repr, Inhabited

/-- Why a text is not a row. The text is what stands between the outer bars. -/
inductive RowDefect
  | cellCount (text : String) (count : Nat)
  | cell (text : String) (index : Nat) (content : String) (fault : Text.NumeralFault)
  deriving DecidableEq, Repr

/-- The wording of a defect. -/
def RowDefect.message : RowDefect → String
  | .cellCount text count => s!"row {Text.quote text}: want 5 cells, got {count}"
  | .cell text index content fault =>
    s!"row {Text.quote text} cell {index}: strconv.ParseUint: parsing {Text.quote content}: {fault.message}"

namespace Row

/-- The text without the blanks and the bars around it. -/
def inner (text : String) : String :=
  Text.dropEnding "|" (Text.dropStart "|" (Text.trim text))

/-- The names in a cell, without blanks around them and without empty ones. -/
def names (cell : String) : List String :=
  ((Text.pieces ',' cell).map Text.trim).filter (· ≠ "")

/-- A number in the cell with an index. -/
def cellValue (text : String) (index : Nat) (cell : String) : Except RowDefect UInt16 :=
  match Text.readUnsigned 16 (Text.trim cell) with
  | .ok value => .ok (UInt16.ofNat value)
  | .error fault => .error (.cell text index (Text.trim cell) fault)

/-- Reads the written form. -/
def parse (text : String) : Except RowDefect Row :=
  let content := inner text
  match Text.pieces '|' content with
  | [maxHead, parallelization, traversal, head, cached] => do
    let maxHead ← cellValue content 0 maxHead
    let parallelization ← cellValue content 1 parallelization
    let traversal ← cellValue content 2 traversal
    let head ← cellValue content 3 head
    return ⟨maxHead, parallelization, traversal, head, names cached⟩
  | cells => .error (.cellCount content cells.length)

/-- The written form. -/
def render (row : Row) : String :=
  s!"| {row.maxHead.toNat} | {row.parallelization.toNat} | {row.traversal.toNat} | {row.head.toNat} | " ++
    Text.joined ", " row.cached ++ " |"

/-- The first row that covers a head dimension, or the last one when none does. Only an empty table has no
    answer. -/
def select? (rows : List Row) (head : UInt16) : Option Row :=
  (rows.find? (head ≤ ·.maxHead)).or rows.getLast?

/-- As `select?`, with the failure of an empty table. -/
def select (rows : List Row) (head : UInt16) : Except Failure Row :=
  match select? rows head with
  | some row => .ok row
  | none => .error ⟨.abort, "runtime error: index out of range [-1]"⟩

/-- Whether no block dimension is zero. -/
def isPositive (row : Row) : Bool :=
  row.parallelization ≠ 0 && row.traversal ≠ 0 && row.head ≠ 0

/-- Whether the block dimensions are made of tiles of eight. -/
def isTiled (row : Row) : Bool :=
  row.parallelization % 8 = 0 && row.traversal % 8 = 0 && row.head % 8 = 0

end Row

end KernelForge.Tuning
