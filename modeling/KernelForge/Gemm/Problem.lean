import KernelForge.Precision
import KernelForge.Shader.Program

/-!
A matrix product as a caller states it: `C = A · B`, where `A` has `m` rows and `k` columns and `B` has `k`
rows and `n` columns, with an optional multiple of the previous `C` and an optional bias. Sizes and strides
are not part of a generated program; they are bound through its function constants.
-/

namespace KernelForge.Gemm

/-- The three matrices. -/
inductive Operand
  | a
  | b
  | c
  deriving DecidableEq, Repr

/-- The matrices in the order in which they are bound. -/
def Operand.all : List Operand := [.a, .b, .c]

/-- The name of a matrix. -/
def Operand.name : Operand → String
  | .a => "A"
  | .b => "B"
  | .c => "C"

/-- One value for each matrix. -/
structure PerOperand (α : Type) where
  a : α
  b : α
  c : α
  deriving DecidableEq, Repr, Inhabited

/-- The value for a matrix. -/
def PerOperand.get {α : Type} (values : PerOperand α) : Operand → α
  | .a => values.a
  | .b => values.b
  | .c => values.c

/-- Which factors are stored with rows and columns exchanged. -/
structure Transpose where
  a : Bool := false
  b : Bool := false
  deriving DecidableEq, Repr, Inhabited

/-- Whether a matrix is stored with rows and columns exchanged; the product never is. -/
def Transpose.get (transpose : Transpose) : Operand → Bool
  | .a => transpose.a
  | .b => transpose.b
  | .c => false

/-- Along which axis of the product a bias runs, as a code: nowhere, one value a row, one value a column. -/
structure BiasAxis where
  code : UInt8
  deriving DecidableEq, Repr

namespace BiasAxis

/-- No bias. -/
@[match_pattern]
abbrev none : BiasAxis := ⟨0⟩

/-- One value for each row. -/
@[match_pattern]
abbrev rows : BiasAxis := ⟨1⟩

/-- One value for each column. -/
@[match_pattern]
abbrev columns : BiasAxis := ⟨2⟩

instance : Inhabited BiasAxis := ⟨none⟩

/-- The name of an axis. -/
def name (axis : BiasAxis) : String :=
  if axis = none then "none"
  else if axis = rows then "rows"
  else if axis = columns then "columns"
  else s!"BiasAxis({axis.code})"

/-- The axis with a name; case and blanks matter. -/
def parse (text : String) : Except Failure BiasAxis :=
  match text with
  | "" | "none" => .ok none
  | "rows" | "row" | "m" => .ok rows
  | "columns" | "column" | "n" => .ok columns
  | _ => .error (.plain s!"unknown bias axis {Text.quote text}")

end BiasAxis

/-- A bias vector: its axis and its format in memory. -/
structure Bias where
  axis : BiasAxis := .none
  precision : Precision := .unset
  deriving DecidableEq, Repr, Inhabited

/-- The sizes of a product. -/
structure Extents where
  m : UInt32
  n : UInt32
  k : UInt32
  deriving DecidableEq, Repr, Inhabited

/-- The wording of sizes in messages. -/
def Extents.display (extents : Extents) : String :=
  s!"\x7bM:{extents.m} N:{extents.n} K:{extents.k}\x7d"

/-- A matrix product. -/
structure Problem where
  /-- The number of products dispatched together, which only the occupancy estimate looks at. -/
  batch : Int64 := 0
  extents : Extents
  memory : PerOperand Precision
  transpose : Transpose := {}
  /-- Row strides in elements; zero stands for packed rows. -/
  leading : PerOperand UInt32 := ⟨0, 0, 0⟩
  loadPreviousC : Bool := false
  beta : Float32 := 0
  bias : Bias := {}
  deriving Inhabited

/-- Why a problem cannot be worked on. -/
inductive ProblemDefect
  | extentsUnset (extents : Extents)
  | precisionsUnset (memory : PerOperand Precision)
  | unknownBiasAxis (axis : BiasAxis)
  deriving DecidableEq, Repr

/-- The failure that a defect is reported as. -/
def ProblemDefect.failure : ProblemDefect → Failure
  | .extentsUnset extents => .of .descriptorIncomplete s!"matrix dimensions {extents.display}"
  | .precisionsUnset memory =>
    .of .descriptorIncomplete
      s!"memory precisions {memory.a.name}/{memory.b.name}/{memory.c.name}"
  | .unknownBiasAxis axis => .of .invalidDescriptor axis.name

/-- The slots that every kernel of a matrix product declares. -/
def constants : List Shader.FunctionConstant :=
  [⟨0, "M", .uint⟩, ⟨1, "N", .uint⟩, ⟨2, "K", .uint⟩, ⟨5, "A_leading_dimension", .uint⟩,
    ⟨6, "B_leading_dimension", .uint⟩, ⟨7, "C_leading_dimension", .uint⟩, ⟨10, "load_previous_C", .bool⟩,
    ⟨11, "beta", .float⟩]

namespace Problem

/-- A problem that says all that the heuristics need. -/
def check (problem : Problem) : Except ProblemDefect Unit :=
  if problem.extents.m = 0 || problem.extents.n = 0 || problem.extents.k = 0 then
    .error (.extentsUnset problem.extents)
  else if !problem.memory.a.isValid || !problem.memory.b.isValid || !problem.memory.c.isValid then
    .error (.precisionsUnset problem.memory)
  else if problem.bias.axis.code > 2 then .error (.unknownBiasAxis problem.bias.axis)
  else .ok ()

/-- The factor of the previous product. Loading it with a factor of zero means a factor of one. -/
def scale (problem : Problem) : Float32 :=
  if problem.loadPreviousC && problem.beta == 0 then 1 else problem.beta

/-- The row strides, packed where none was given. -/
def strides (problem : Problem) : PerOperand UInt32 where
  a :=
    if problem.leading.a ≠ 0 then problem.leading.a
    else if problem.transpose.a then problem.extents.m else problem.extents.k
  b :=
    if problem.leading.b ≠ 0 then problem.leading.b
    else if problem.transpose.b then problem.extents.k else problem.extents.n
  c := if problem.leading.c ≠ 0 then problem.leading.c else problem.extents.n

/-- What a pipeline for the problem binds. -/
def boundConstants (problem : Problem) : List Shader.BoundConstant :=
  let strides := problem.strides
  List.zipWith (fun constant content => ⟨constant, content⟩) constants
    [.uint problem.extents.m, .uint problem.extents.n, .uint problem.extents.k, .uint strides.a,
      .uint strides.b, .uint strides.c, .bool problem.loadPreviousC, .float problem.scale]

end Problem

end KernelForge.Gemm
