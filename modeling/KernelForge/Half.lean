import KernelForge.Precision

/-!
The two 16 bit formats as bit patterns beside the 32 bit one. Widening is exact. Narrowing goes to the
nearest value, a tie to the even one, through the subnormal range of the format down to a signed zero, and
beyond the largest value to infinity. A NaN stays a NaN: it is made quiet and keeps the leading bits of its
payload.

Everything is integer arithmetic on the patterns, so each statement about rounding is one about natural
numbers.
-/

namespace KernelForge

/-- `value / 2 ^ shift` rounded to the nearest integer, a tie to the even one. -/
def roundShift (value shift : Nat) : Nat :=
  let quotient := value / Nat.pow 2 shift
  let rest := 2 * (value % Nat.pow 2 shift)
  if Nat.pow 2 shift < rest || (rest == Nat.pow 2 shift && quotient % 2 == 1) then quotient + 1 else quotient

/-- A bit pattern of the 16 bit format with 5 exponent bits. -/
structure Half where
  bits : UInt16
  deriving DecidableEq, Repr

namespace Half

/-- All exponent bits set and a fraction. -/
def isNaN (half : Half) : Bool :=
  half.bits &&& 0x7C00 == 0x7C00 && half.bits &&& 0x3FF != 0

/-- All exponent bits set and no fraction, of either sign. -/
def isInfinite (half : Half) : Bool :=
  half.bits &&& 0x7FFF == 0x7C00

/-- The pattern of the same value in 32 bits. A subnormal `f · 2^-24` has its leading bit as the implicit
    one of the wider format. -/
def widen (half : Half) : UInt32 :=
  let sign := (half.bits &&& 0x8000).toUInt32 <<< 16
  let exponent := (half.bits >>> 10).toUInt32 &&& 0x1F
  let fraction := half.bits.toUInt32 &&& 0x3FF
  if exponent = 0 then
    if fraction = 0 then sign
    else
      let leading := Nat.log2 fraction.toNat
      sign ||| UInt32.ofNat ((leading + 103) * 0x800000 +
        (fraction.toNat - Nat.pow 2 leading) * Nat.pow 2 (23 - leading))
  else if exponent = 0x1F then
    if fraction = 0 then sign ||| 0x7F800000
    else sign ||| (0x7FC00000 : UInt32) ||| (fraction <<< 13)
  else sign ||| (exponent + 112) <<< 23 ||| fraction <<< 13

/-- The significand and the exponent of a magnitude below `2^-14`, counted so that the value is
    `significand / 2 ^ shift` units of `2^-24`. -/
def subnormalUnits (magnitude : UInt32) : Nat × Nat :=
  let exponent := (magnitude >>> 23).toNat
  let fraction := (magnitude &&& 0x7FFFFF).toNat
  if exponent = 0 then (fraction, 125) else (fraction + 0x800000, 126 - exponent)

/-- The nearest pattern of this format. From 65520 on the result is infinite. -/
def narrow (pattern : UInt32) : Half :=
  let sign := (pattern >>> 16).toUInt16 &&& 0x8000
  let magnitude := pattern &&& 0x7FFFFFFF
  if magnitude > 0x7F800000 then ⟨sign ||| (0x7E00 : UInt16) ||| ((magnitude >>> 13).toUInt16 &&& 0x3FF)⟩
  else if magnitude ≥ 0x477FF000 then ⟨sign ||| 0x7C00⟩
  else if magnitude < 0x38800000 then
    let units := subnormalUnits magnitude
    ⟨sign ||| UInt16.ofNat (roundShift units.1 units.2)⟩
  else
    let rebased := magnitude - 0x38000000
    let increment : UInt32 := (rebased >>> 13 &&& 1) + 0xFFF
    ⟨sign ||| ((rebased + increment) >>> 13).toUInt16⟩

end Half

/-- A bit pattern of the 16 bit format with 8 exponent bits. -/
structure Bfloat where
  bits : UInt16
  deriving DecidableEq, Repr

namespace Bfloat

/-- All exponent bits set and a fraction. -/
def isNaN (bfloat : Bfloat) : Bool :=
  bfloat.bits &&& 0x7F80 == 0x7F80 && bfloat.bits &&& 0x7F != 0

/-- The pattern of the same value in 32 bits. -/
def widen (bfloat : Bfloat) : UInt32 :=
  bfloat.bits.toUInt32 <<< 16

/-- The nearest pattern of this format; the carry out of the fraction runs into the exponent. -/
def narrow (pattern : UInt32) : Bfloat :=
  if pattern &&& 0x7FFFFFFF > 0x7F800000 then ⟨((pattern >>> 16) ||| 0x40).toUInt16⟩
  else ⟨((pattern + ((pattern >>> 16 &&& 1) + (0x7FFF : UInt32))) >>> 16).toUInt16⟩

end Bfloat

namespace Precision

/-- What a 32 bit pattern becomes when it is stored in a format and read back. Codes that name no 16 bit
    format leave it alone. -/
def roundBits (precision : Precision) (pattern : UInt32) : UInt32 :=
  if precision = fp16 then (Half.narrow pattern).widen
  else if precision = bf16 then (Bfloat.narrow pattern).widen
  else pattern

/-- `roundBits` on the value that a pattern denotes. -/
def round (precision : Precision) (value : Float32) : Float32 :=
  if precision = fp16 || precision = bf16 then .ofBits (precision.roundBits value.toBits) else value

/-- A buffer of patterns after a trip through a format, position by position in place. -/
def roundAllBits (precision : Precision) (patterns : Array UInt32) : Array UInt32 :=
  if precision = fp32 then patterns
  else (List.range patterns.size).foldl (fun buffer index => buffer.modify index precision.roundBits) patterns

/-- `roundAllBits` on the values that the patterns denote. -/
def roundAll (precision : Precision) (values : Array Float32) : Array Float32 :=
  if precision = fp32 then values else values.map precision.round

end Precision

end KernelForge
