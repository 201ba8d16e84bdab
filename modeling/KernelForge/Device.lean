import KernelForge.Failure
import KernelForge.Text.Blank
import KernelForge.Text.Lower
import KernelForge.Text.Quoted
import KernelForge.Text.Numeral

/-!
GPU generations and the devices kernels are made for. A generation is a number; three of them are
supported. The host can be named by an environment variable or by the marketing name of its chip.
-/

namespace KernelForge

/-- The bytes of threadgroup memory on every supported GPU. -/
def maxThreadgroupMemory : Nat := 32 * 1024

/-- The number of a GPU generation, modulo 256. -/
structure Family where
  code : UInt8
  deriving DecidableEq, Repr

/-- Why no supported generation can be named. -/
inductive DeviceDefect
  | unknownFamily (text : String)
  | unrecognizedChip (name : String)
  | outdatedChip (name : String)
  | noHostGpu
  deriving DecidableEq, Repr

/-- The failure that a defect is reported as. -/
def DeviceDefect.failure : DeviceDefect → Failure
  | .unknownFamily text => .of .unsupportedDevice s!"unknown GPU family {Text.quote text}"
  | .unrecognizedChip name => .of .unsupportedDevice s!"unrecognized chip {Text.quote name}"
  | .outdatedChip name => .of .unsupportedDevice s!"{Text.quote name} predates apple7"
  | .noHostGpu => .of .unsupportedDevice "no Apple GPU on this platform"

namespace Family

/-- The oldest supported generation. -/
abbrev apple7 : Family := ⟨7⟩

/-- The generation in the middle. -/
abbrev apple8 : Family := ⟨8⟩

/-- The newest supported generation. -/
abbrev apple9 : Family := ⟨9⟩

instance : Inhabited Family := ⟨⟨0⟩⟩

/-- Whether the generation is supported. -/
def isValid (family : Family) : Bool :=
  7 ≤ family.code && family.code ≤ 9

/-- Whether the arithmetic units decode the 16 bit format with 8 exponent bits themselves. -/
def nativeBfloat (family : Family) : Bool :=
  9 ≤ family.code

/-- Whether staging through threadgroup memory beats direct loads from device memory. -/
def prefersAsyncCopy (family : Family) : Bool :=
  family.code < 9

/-- The name of a generation. -/
def name (family : Family) : String :=
  if family.isValid then s!"apple{family.code.toNat}" else s!"Family({family.code.toNat})"

/-- Reads `apple7` to `apple9` or the bare number, whatever the case and the blanks around it. The number
    may have a sign; it is reduced modulo 256 before it is compared with the supported generations. -/
def parse (text : String) : Except DeviceDefect Family :=
  let number := Text.dropStart "apple" (Text.lower (Text.trim text))
  match Text.readSigned number with
  | .ok value =>
    let family : Family := ⟨UInt8.ofInt value⟩
    if family.isValid then .ok family else .error (.unknownFamily number)
  | .error _ => .error (.unknownFamily number)

end Family

/-- The GPU that a kernel is generated for. -/
structure Device where
  name : String := ""
  family : Family := default
  /-- A phone or tablet part, with fewer cores. -/
  mobile : Bool := false
  /-- The number of cores, or an estimate of the tuning tables when it is not positive. -/
  cores : Int64 := 0
  deriving DecidableEq, Repr, Inhabited

/-- What the marketing name of a chip tells. -/
structure ChipVerdict where
  mobile : Bool
  family : Except DeviceDefect Family

namespace Device

/-- The letter and the generation of the first chip name in a text: the word `Apple`, a blank, the letter
    `M` or `A` and at least one digit, of which all that follow are taken. -/
def chipMark? : List Char → Option (Char × Nat)
  | [] => none
  | character :: rest =>
    let found :=
      match (character :: rest) with
      | 'A' :: 'p' :: 'p' :: 'l' :: 'e' :: ' ' :: letter :: number =>
        let digits := number.takeWhile Text.isDecimalDigit
        if (letter == 'M' || letter == 'A') && !digits.isEmpty then
          some (letter, Text.digitsValue digits)
        else none
      | _ => none
    found.orElse fun _ => chipMark? rest

/-- The generation of a chip by its marketing name, and whether it is a phone or tablet part. -/
def ofChip (name : String) : ChipVerdict :=
  match chipMark? name.toList with
  | none => ⟨false, .error (.unrecognizedChip name)⟩
  | some ('M', generation) =>
    ⟨false, .ok (if generation ≤ 1 then .apple7 else if generation = 2 then .apple8 else .apple9)⟩
  | some (_, generation) =>
    ⟨true,
      if generation < 14 then .error (.outdatedChip name)
      else .ok (if generation = 14 then .apple7 else if generation ≤ 16 then .apple8 else .apple9)⟩

/-- The variable that names the generation of the host. -/
def familyVariable : String := "MFA_DEVICE_FAMILY"

/-- The host by the value of `familyVariable`. An absent or empty value leaves nothing to go by. -/
def detect (setting : Option String) : Except Failure Device :=
  let value := setting.getD ""
  if value = "" then .error DeviceDefect.noHostGpu.failure
  else match Family.parse value with
    | .ok family => .ok { name := value, family }
    | .error defect => .error (defect.failure.within familyVariable)

end Device

end KernelForge
