import KernelForge.Failure
import KernelForge.Text.Blank
import KernelForge.Text.Lower
import KernelForge.Text.Quoted

/-!
The numeric format of an operand, in memory or in registers. A format is a one-byte code: three codes name
formats, zero means that nothing was chosen, and every other code is refused wherever a format is needed.
Keeping the code lets descriptors carry such values up to the place that refuses them.
-/

namespace KernelForge

/-- The code of a numeric format. -/
structure Precision where
  code : UInt8
  deriving DecidableEq, Repr

namespace Precision

/-- No format chosen. -/
@[match_pattern]
abbrev unset : Precision := ⟨0⟩

/-- Binary floating point with 32 bits. -/
@[match_pattern]
abbrev fp32 : Precision := ⟨1⟩

/-- Binary floating point with 16 bits, of which 5 are the exponent. -/
@[match_pattern]
abbrev fp16 : Precision := ⟨2⟩

/-- The upper half of the 32 bit format: 8 exponent bits and 7 bits after the point. -/
@[match_pattern]
abbrev bf16 : Precision := ⟨3⟩

instance : Inhabited Precision := ⟨unset⟩

/-- Whether the code names a format. -/
def isValid (precision : Precision) : Bool :=
  precision == fp32 || precision == fp16 || precision == bf16

/-- The scalar type of the shading language. -/
def scalarName (precision : Precision) : String :=
  if precision = fp32 then "float"
  else if precision = fp16 then "half"
  else if precision = bf16 then "bfloat"
  else "invalid"

/-- The number of bytes of one element. -/
def size (precision : Precision) : Nat :=
  if precision = fp32 then 4
  else if precision = fp16 || precision = bf16 then 2
  else 0

/-- The name used in keys, messages and documents. -/
def name (precision : Precision) : String :=
  if precision = fp32 then "FP32"
  else if precision = fp16 then "FP16"
  else if precision = bf16 then "BF16"
  else if precision = unset then "unset"
  else s!"Precision({precision.code.toNat})"

/-- The format with a given name, whatever the case and the blanks around it. Both the short names and
    the scalar types of the shading language are known. -/
def ofName? (text : String) : Option Precision :=
  match Text.lower (Text.trim text) with
  | "fp32" | "float" | "float32" | "f32" => some fp32
  | "fp16" | "half" | "float16" | "f16" => some fp16
  | "bf16" | "bfloat" | "bfloat16" => some bf16
  | _ => none

/-- As `ofName?`, with the failure that names the text. -/
def parse (text : String) : Except Failure Precision :=
  match ofName? text with
  | some precision => .ok precision
  | none => .error (.plain s!"unknown precision {Text.quote text}")

/-- The name in a document. Only a format has one. -/
def documentName (precision : Precision) : Except Failure String :=
  if precision.isValid then .ok precision.name
  else .error (.plain s!"cannot marshal {precision.name}")

end Precision

/-- Why an operand cannot be kept in memory in one format and in registers in another. -/
inductive PairDefect
  | incomplete (memory register : Precision)
  | unholdable (memory register : Precision)
  deriving DecidableEq, Repr

/-- The class of a defect. -/
def PairDefect.kind : PairDefect → FailureKind
  | .incomplete _ _ => .descriptorIncomplete
  | .unholdable _ _ => .invalidPrecisionPair

/-- The failure that a defect is reported as. -/
def PairDefect.failure : PairDefect → Failure
  | .incomplete memory register =>
    .of .descriptorIncomplete s!"memory {memory.name}, register {register.name}"
  | .unholdable memory register =>
    .of .invalidPrecisionPair s!"memory {memory.name} cannot be held as {register.name}"

namespace Precision

/-- A register form is the memory form or single precision. -/
def checkPair (memory register : Precision) : Except PairDefect Unit :=
  if !memory.isValid || !register.isValid then .error (.incomplete memory register)
  else if register ≠ memory && register ≠ fp32 then .error (.unholdable memory register)
  else .ok ()

/-- Whether a tile moves through the widening variant of an access: the upper halves of single precision
    registers hold the shorter memory form. -/
def widensBfloat (memory register : Precision) : Bool :=
  memory = bf16 && register = fp32

/-- The member that loads a tile. -/
def loadFunction (memory register : Precision) : String :=
  if widensBfloat memory register then "load_bfloat" else "load"

/-- The member that stores a tile. -/
def storeFunction (memory register : Precision) : String :=
  if widensBfloat memory register then "store_bfloat" else "store"

end Precision

end KernelForge
