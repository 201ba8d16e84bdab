import KernelForge.Text.Numeral

/-!
Decimal notation of binary floating point numbers, both ways. A finite number is `significand · 2 ^ exponent`
and every decision is made on that pair in exact integer arithmetic: the given number of significant digits
is the nearest decimal, a tie going to the even digit, and the shortest notation is the one with the fewest
digits that no other number of the format is nearer to.
-/

namespace KernelForge.Text

/-- A finite binary number apart from its sign, with the least power of two its format has there. -/
structure Binary where
  significand : Nat
  exponent : Int
  deriving DecidableEq, Repr

/-- What a floating point number is. -/
inductive FloatClass
  | nan
  | infinite (negative : Bool)
  | finite (negative : Bool) (value : Binary)
  deriving DecidableEq, Repr

/-- Takes apart a pattern with the given numbers of fraction and exponent bits. -/
def classify (fractionBits exponentBits pattern : Nat) : FloatClass :=
  let fraction := pattern % Nat.pow 2 fractionBits
  let exponent := pattern / Nat.pow 2 fractionBits % Nat.pow 2 exponentBits
  let negative := pattern / Nat.pow 2 (fractionBits + exponentBits) % 2 == 1
  if exponent == Nat.pow 2 exponentBits - 1 then
    if fraction == 0 then .infinite negative else .nan
  else
    let least : Int := 2 - (Nat.pow 2 (exponentBits - 1) : Int) - fractionBits
    if exponent == 0 then .finite negative ⟨fraction, least⟩
    else .finite negative ⟨fraction + Nat.pow 2 fractionBits, least + exponent - 1⟩

/-- A double precision number taken apart. -/
def classifyDouble (value : Float) : FloatClass :=
  classify 52 11 value.toBits.toNat

/-- A single precision number taken apart. -/
def classifySingle (value : Float32) : FloatClass :=
  classify 23 8 value.toBits.toNat

/-- Decimal digits, most significant first, and the place of the point: the value is
    `0.d₁d₂… · 10 ^ point`. -/
structure Decimal where
  digits : List Nat
  point : Int
  deriving DecidableEq, Repr

/-- The digits of a natural number without the zeros at its end, which move into the point. -/
def Decimal.ofScaled (value : Nat) (power : Int) : Decimal :=
  let digits := (Nat.toDigits 10 value).map fun digit => digit.toNat - '0'.toNat
  let kept := (digits.reverse.dropWhile (· == 0)).reverse
  ⟨kept, power + digits.length⟩

/-- Numerator and denominator of a binary number over a power of ten. -/
def Binary.over (value : Binary) (power : Int) : Nat × Nat :=
  (value.significand * Nat.pow 2 value.exponent.toNat * Nat.pow 10 (-power).toNat,
    Nat.pow 2 (-value.exponent).toNat * Nat.pow 10 power.toNat)

/-- The place of the first digit of a positive number: the least `place` with `value < 10 ^ place`. -/
def Binary.place (value : Binary) : Int :=
  let bits : Int := Nat.log2 value.significand + value.exponent
  let guess : Int := bits * 30103 / 100000
  let (numerator, denominator) := value.over guess
  if numerator < denominator then guess
  else if numerator < 10 * denominator then guess + 1
  else guess + 2

/-- The quotient rounded to the nearest integer, a tie to the even one. -/
def roundQuotient (numerator denominator : Nat) : Nat :=
  let quotient := numerator / denominator
  let rest := 2 * (numerator % denominator)
  if denominator < rest || (rest == denominator && quotient % 2 == 1) then quotient + 1 else quotient

/-- The nearest decimal with a number of significant digits. -/
def Binary.toDigits (value : Binary) (count : Nat) : Decimal :=
  if value.significand = 0 then ⟨[], 0⟩
  else
    let power := value.place - count
    let (numerator, denominator) := value.over power
    .ofScaled (roundQuotient numerator denominator) power

/-- Whether a decimal `scaled · 10 ^ power` lies closer to the number than to its neighbours in a format
    with the given number of fraction bits; the midpoints belong to even significands. -/
def Binary.reads (value : Binary) (fractionBits : Nat) (least : Int) (scaled : Nat) (power : Int) : Bool :=
  -- All quantities in quarters of the last place, over the common power of ten.
  let lowerHalf := value.significand == Nat.pow 2 fractionBits && least < value.exponent
  let quarter : Binary → Nat × Nat := fun scaledValue => scaledValue.over power
  let (low, denominator) := quarter ⟨4 * value.significand - (if lowerHalf then 1 else 2), value.exponent - 2⟩
  let (high, _) := quarter ⟨4 * value.significand + 2, value.exponent - 2⟩
  let candidate := scaled * denominator
  if value.significand % 2 == 0 then low ≤ candidate && candidate ≤ high
  else low < candidate && candidate < high

/-- The shortest decimal that reads back as the number; of two equally short ones the nearer. -/
def Binary.shortest (value : Binary) (fractionBits : Nat) (least : Int) : Decimal :=
  if value.significand = 0 then ⟨[], 0⟩
  else
    let candidate (count : Nat) : Option Decimal :=
      let power := value.place - count
      let (numerator, denominator) := value.over power
      let floor := numerator / denominator
      let nearest := roundQuotient numerator denominator
      let other := if nearest = floor then floor + 1 else floor
      if value.reads fractionBits least nearest power then some (.ofScaled nearest power)
      else if value.reads fractionBits least other power then some (.ofScaled other power)
      else none
    ((List.range 17).findSome? fun index => candidate (index + 1)).getD (value.toDigits 17)

/-- Digits as characters. -/
def digitChars (digits : List Nat) : String :=
  String.ofList (digits.map fun digit => Char.ofNat ('0'.toNat + digit))

/-- A sign and at least two digits. -/
def exponentText (exponent : Int) : String :=
  let magnitude := toString exponent.natAbs
  (if exponent < 0 then "-" else "+") ++ (if magnitude.length < 2 then "0" ++ magnitude else magnitude)

namespace Decimal

/-- One digit, the others after a point, and the exponent. -/
def scientific (decimal : Decimal) : String :=
  match decimal.digits with
  | [] => "0e+00"
  | [first] => digitChars [first] ++ "e" ++ exponentText (decimal.point - 1)
  | first :: rest =>
    digitChars [first] ++ "." ++ digitChars rest ++ "e" ++ exponentText (decimal.point - 1)

/-- All digits in their places, without an exponent. -/
def positional (decimal : Decimal) : String :=
  if decimal.digits.isEmpty then "0"
  else if decimal.point ≤ 0 then
    "0." ++ String.ofList (List.replicate (-decimal.point).toNat '0') ++ digitChars decimal.digits
  else
    let whole := decimal.point.toNat
    let padded := decimal.digits.take whole ++ List.replicate (whole - decimal.digits.length) 0
    let fraction := decimal.digits.drop whole
    digitChars padded ++ (if fraction.isEmpty then "" else "." ++ digitChars fraction)

end Decimal

/-- A number with at most `count` significant digits; exponents below -4 or from `count` on are written. -/
def general (count : Nat) (value : Float) : String :=
  match classifyDouble value with
  | .nan => "NaN"
  | .infinite negative => if negative then "-Inf" else "+Inf"
  | .finite negative binary =>
    let decimal := binary.toDigits count
    let exponent := if decimal.digits.isEmpty then 0 else decimal.point - 1
    let text :=
      if exponent < -4 || (count : Int) ≤ exponent then decimal.scientific else decimal.positional
    if negative then "-" ++ text else text

/-- The shortest notation of a single precision number; magnitudes below a millionth and from `10^21` on
    have an exponent. Only finite numbers have one. -/
def shortestSingle? (value : Float32) : Option String :=
  match classifySingle value with
  | .finite negative binary =>
    let decimal := binary.shortest 23 (-149)
    let magnitude := value.abs
    let text :=
      if magnitude != 0 && (magnitude < 1e-6 || magnitude ≥ 1e21) then decimal.scientific
      else decimal.positional
    some (if negative then "-" ++ text else text)
  | _ => none

/-- The double nearest to `digits · 10 ^ power`, where the digits are given as characters. Powers beyond the
    range of the format give zero or infinity without being computed. -/
def nearestDouble (digits : List Char) (power : Int) : Float :=
  let significant := digits.dropWhile (· == '0')
  let value := digitsValue significant
  let place := power + significant.length
  if value = 0 then 0
  else if place > 400 then 1 / 0
  else if place < -400 then 0
  else if power < 0 then Float.ofScientific value true power.natAbs
  else Float.ofScientific value false power.natAbs

/-- A decimal with an optional fraction and an optional exponent, within the range of a double. -/
def double? (characters : List Char) : Option Float := do
  let (negative, body) := splitSign characters
  let whole := body.takeWhile isDecimalDigit
  let rest := body.dropWhile isDecimalDigit
  let (fraction, rest, pointed) :=
    match rest with
    | '.' :: after => (after.takeWhile isDecimalDigit, after.dropWhile isDecimalDigit, true)
    | _ => ([], rest, false)
  if whole.isEmpty && (!pointed || fraction.isEmpty) then none
  else
    let exponent ←
      match rest with
      | [] => some 0
      | mark :: after =>
        if mark == 'e' || mark == 'E' then
          let (down, digits) := splitSign after
          if digits.isEmpty || !digits.all isDecimalDigit then none
          else some (if down then -(digitsValue digits : Int) else digitsValue digits)
        else none
    let value := nearestDouble (whole ++ fraction) (exponent - fraction.length)
    if value.isInf then none else some (if negative then -value else value)

end KernelForge.Text
