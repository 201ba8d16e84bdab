import KernelForge.Shader.Header

/-!
A generated program: its text and what is needed to run it. Values that are not part of the text are bound
through function constants when a pipeline is made.
-/

namespace KernelForge.Shader

/-- The type of a function constant. -/
inductive ConstantType
  | uint
  | bool
  | float
  deriving DecidableEq, Repr

/-- The name of a constant's type in the shading language. -/
def ConstantType.name : ConstantType → String
  | .uint => "uint"
  | .bool => "bool"
  | .float => "float"

/-- A slot that a program declares and a pipeline fills. -/
structure FunctionConstant where
  index : Nat
  name : String
  type : ConstantType
  deriving DecidableEq, Repr

/-- What a slot is filled with. -/
inductive ConstantContent
  | uint (value : UInt32)
  | bool (value : Bool)
  | float (value : Float32)

/-- A slot and what it is filled with. -/
structure BoundConstant where
  constant : FunctionConstant
  content : ConstantContent

/-- A generated kernel. -/
structure Program where
  /-- The name of the kernel function. -/
  entryPoint : String
  source : String
  /-- The bytes of threadgroup memory to reserve. -/
  threadgroupMemory : UInt16
  /-- The number of threads of a threadgroup. -/
  threadgroupSize : UInt16
  constants : List FunctionConstant
  deriving DecidableEq, Repr

/-- The text in front of every kernel. -/
def preamble : String :=
  eventHeader ++ "\n" ++ storageHeader ++ "\n"

/-- The declaration of a kernel function, an argument a line, aligned after the opening parenthesis. -/
def kernelHead (name : String) (arguments : List String) : List Stmt :=
  let opening := s!"kernel void {name}("
  let margin := String.ofList (List.replicate opening.length ' ')
  match arguments with
  | [] => [.line (opening ++ ")")]
  | first :: rest =>
    let lines := (opening ++ first) :: rest.map (margin ++ ·)
    lines.zipIdx.map fun (line, index) =>
      .line (line ++ (if index + 1 = lines.length then ")" else ","))

/-- A loop over tiles of eight, unrolled. -/
def tileLoop (index : String) (extent : UInt16) (body : List Stmt) : Stmt :=
  .loop .full s!"ushort {index} = 0; {index} < {extent}; {index} += 8" body

/-- Work of the first SIMD group that the others wait for: they all meet behind it. -/
def staged (body : List Stmt) : List Stmt :=
  [.cond "sidx == 0" body, .barrier]

/-- A copy of the first SIMD group into memory that others may still read, and statements that need nothing
    of the copy: all meet before it and after them. -/
def fenced (copy between : List Stmt) : List Stmt :=
  [.barrier, .cond "sidx == 0" copy] ++ between ++ [.barrier]

end KernelForge.Shader
