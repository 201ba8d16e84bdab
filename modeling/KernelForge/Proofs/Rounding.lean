import KernelForge.Arithmetic

/-!
The laws of rounding that schedules rely on: zero survives every format, and going through a format a second
time changes nothing.
-/

namespace KernelForge

/-- Rounding that keeps zero and does nothing the second time. -/
class LawfulRounding (α : Type) [Register α] : Prop where
  round_zero : ∀ precision, Register.round precision (Scalar.zero : α) = Scalar.zero
  round_round : ∀ precision (value : α),
    Register.round precision (Register.round precision value) = Register.round precision value

end KernelForge
