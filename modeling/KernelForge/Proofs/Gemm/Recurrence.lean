import KernelForge.Gemm.Emulation

/-!
The recurrence of one element of the product, without blocks, tiles or threadgroup memory: the previous
element and the bias come first, then eight terms at a time are summed and the sum is added to the register.
Every number is rounded where the kernel moves it between formats.
-/

namespace KernelForge.Gemm.Launch

variable {α : Type} [Register α]

open Register

/-- An element of a matrix as its buffer holds it. -/
def entry (launch : Launch α) (operand : Operand) (row column : Nat) : α :=
  (launch.buffers.get operand)[launch.problem.position operand row column]?.getD Scalar.zero

/-- A factor from the left in its register; behind the depth there are zeros. -/
def leftFactor (launch : Launch α) (row depth : Nat) : α :=
  round (launch.kernel.register .a)
    (round (launch.kernel.memory .a) (if depth < launch.k then launch.entry .a row depth else Scalar.zero))

/-- A factor from the right in its register; behind the depth there are zeros. -/
def rightFactor (launch : Launch α) (depth column : Nat) : α :=
  round (launch.kernel.register .b)
    (round (launch.kernel.memory .b) (if depth < launch.k then launch.entry .b depth column else Scalar.zero))

/-- The previous product in its register, times its factor unless that is one. -/
def previous (launch : Launch α) (row column : Nat) : α :=
  let precision := launch.kernel.register .c
  let value := round precision (round (launch.kernel.memory .c) (launch.entry .c row column))
  if isOne launch.buffers.scale then value
  else round precision (value * round precision launch.buffers.scale)

/-- What the register of an element starts from. -/
def initial (launch : Launch α) (row column : Nat) : α :=
  if launch.problem.loadPreviousC then launch.previous row column else Scalar.zero

/-- The bias of a row or column in its register. -/
def biasEntry (launch : Launch α) (index : Nat) : α :=
  round (launch.kernel.register .c)
    (round launch.kernel.descriptor.bias.precision (launch.buffers.bias[index]?.getD Scalar.zero))

/-- The register of an element after its bias was added. -/
def biased (launch : Launch α) (row column : Nat) : α :=
  let axis := launch.kernel.descriptor.bias.axis
  if axis = .none then launch.initial row column
  else
    round (launch.kernel.register .c)
      (launch.initial row column + launch.biasEntry (if axis = .rows then row else column))

/-- Eight terms of the sum of an element, from the first on. -/
def slice (launch : Launch α) (row column index : Nat) : α :=
  (List.range 8).foldl (fun sum step =>
    sum + launch.leftFactor row (8 * index + step) * launch.rightFactor (8 * index + step) column) Scalar.zero

/-- The register of an element after a number of slices. -/
def accumulated (launch : Launch α) (row column : Nat) : Nat → α
  | 0 => launch.biased row column
  | index + 1 =>
    round (launch.kernel.register .c) (launch.accumulated row column index + launch.slice row column index)

/-- An element of the product: the whole depth is covered by slices of eight. -/
def productEntry (launch : Launch α) (row column : Nat) : α :=
  round (launch.kernel.memory .c) (launch.accumulated row column (stepCount launch.k 8))

end KernelForge.Gemm.Launch
