import KernelForge.Half

/-!
The numbers that kernels and references compute with. A schedule is written once for any type with the
operations it needs: over `Float32` it shows what a GPU computes, and over a ring or the real numbers, with
rounding as the identity, it can be compared with the formula it is meant to evaluate.
-/

namespace KernelForge

/-- Numbers with sums and products. -/
class Scalar (α : Type) extends Add α, Mul α where
  zero : α

/-- What the registers of a threadgroup hold. -/
class Register (α : Type) extends Scalar α where
  /-- What memory holds that nobody wrote. -/
  poison : α
  /-- Whether a factor can be left out. -/
  isOne : α → Bool
  /-- What is left of a number that goes through a format. -/
  round : Precision → α → α

/-- Registers with the operations of a softmax that runs along with its row. -/
class SoftmaxRegister (α : Type) extends Register α, Sub α, Div α where
  one : α
  greater : α → α → α
  exceeds : α → α → Bool
  exp2 : α → α
  log2 : α → α
  /-- A number that no score goes below. -/
  lowest : α
  /-- The score of a column beyond the end, whose exponential vanishes. -/
  mask : α
  /-- The factor that turns a score into an exponent of two, for a head dimension. -/
  forwardScale : Nat → α
  /-- The inverse root of a head dimension. -/
  backwardScale : Nat → α

/-- Numbers in which attention is written down without any schedule. -/
class Exponential (α : Type) extends Scalar α, Sub α, Div α where
  greater : α → α → α
  exp : α → α
  log : α → α
  /-- A number below all scores. -/
  bottom : α
  /-- The logarithm of Euler's number to base two. -/
  log2e : α
  /-- The inverse root of a head dimension. -/
  inverseRoot : Nat → α

namespace Scalar

variable {α : Type} [Scalar α]

/-- A sum from the left, starting at zero. -/
def sum (terms : List α) : α :=
  terms.foldl (· + ·) zero

/-- The inner product of two rows. -/
def dot (first second : List α) : α :=
  sum (List.zipWith (· * ·) first second)

/-- Rows of a width times their weights, added up from the first on. -/
def weightedSum (width : Nat) (terms : List (α × List α)) : List α :=
  terms.foldl (fun held term => List.zipWith (fun sum value => sum + term.1 * value) held term.2)
    (List.replicate width zero)

end Scalar

/-- A list in pieces of eight, of which the last may be shorter. -/
def eights {α : Type} : List α → List (List α)
  | [] => []
  | first :: rest => (first :: rest.take 7) :: eights (rest.drop 7)
termination_by terms => terms.length
decreasing_by simp only [List.length_drop, List.length_cons]; omega

namespace Register

variable {α : Type} [Register α]

/-- Terms added to a register: eight are summed, the sum is added, and the register is rounded. -/
def accumulate (precision : Precision) (register : α) (terms : List α) : α :=
  (eights terms).foldl (fun held piece => round precision (held + Scalar.sum piece)) register

/-- The inner product of two rows in a register. -/
def dot (precision : Precision) (first second : List α) : α :=
  accumulate precision Scalar.zero (List.zipWith (· * ·) first second)

/-- Weighted rows added to a row of registers, eight of them at a time. -/
def accumulateRows (precision : Precision) (registers : List α) (terms : List (α × List α)) : List α :=
  (eights terms).foldl (fun held piece =>
    List.zipWith (fun register sum => round precision (register + sum)) held
      (Scalar.weightedSum registers.length piece)) registers

/-- A row of registers times a factor. -/
def scaleRow (precision : Precision) (factor : α) (registers : List α) : List α :=
  registers.map fun register => round precision (register * factor)

end Register

/-- The greater of two doubles; a NaN wins, and the positive zero wins over the negative one. -/
def greaterDouble (first second : Float) : Float :=
  if first.isNaN then first
  else if second.isNaN then second
  else if first == 0 && second == 0 then first + second
  else if first < second then second else first

/-- As `greaterDouble`, in single precision. -/
def greaterSingle (first second : Float32) : Float32 :=
  if first.isNaN then first
  else if second.isNaN then second
  else if first == 0 && second == 0 then first + second
  else if first < second then second else first

/-- The logarithm of Euler's number to base two. -/
def log2Euler : Float := 1.4426950408889634

instance : SoftmaxRegister Float32 where
  zero := 0
  one := 1
  poison := Float32.ofBits 0x7FC00000
  isOne value := value == 1
  round := Precision.round
  greater := greaterSingle
  exceeds first second := first > second
  exp2 value := value.toFloat.exp2.toFloat32
  log2 value := value.toFloat.log2.toFloat32
  lowest := Float32.ofBits 0xFF7FFFFF
  mask := Float32.ofBits 0xFF1B43D4
  forwardScale head := (log2Euler / (Float.ofNat head).sqrt).toFloat32
  backwardScale head := (1 / (Float.ofNat head).sqrt).toFloat32

instance : Exponential Float where
  zero := 0
  greater := greaterDouble
  exp := Float.exp
  log := Float.log
  bottom := Float.ofBits 0xFFF0000000000000
  log2e := log2Euler
  inverseRoot head := 1 / (Float.ofNat head).sqrt

end KernelForge
