import KernelForge.Text.Quoted

/-!
Decimal numerals of a bounded range. A numeral is one or more of the ten digits `0` to `9`, after an
optional sign where signs are allowed; nothing else is skipped or accepted. A numeral outside the range is
told apart from text that is no numeral.
-/

namespace KernelForge.Text

/-- Why a text does not denote a number of the range. -/
inductive NumeralFault
  | invalid
  | range
  deriving DecidableEq, Repr

/-- The wording of a fault. -/
def NumeralFault.message : NumeralFault → String
  | .invalid => "invalid syntax"
  | .range => "value out of range"

/-- Whether a character is one of the digits `0` to `9`. -/
def isDecimalDigit (character : Char) : Bool :=
  '0' ≤ character && character ≤ '9'

/-- The value of a row of digits, most significant first. -/
def digitsValue (digits : List Char) : Nat :=
  digits.foldl (fun value digit => 10 * value + (digit.toNat - '0'.toNat)) 0

/-- Reads an unsigned numeral of at most `bits` bits. -/
def readUnsigned (bits : Nat) (text : String) : Except NumeralFault Nat :=
  let digits := text.toList
  if digits.isEmpty || !digits.all isDecimalDigit then .error .invalid
  else if digitsValue digits < Nat.pow 2 bits then .ok (digitsValue digits)
  else .error .range

/-- Splits off one leading sign; the flag tells whether it was a minus. -/
def splitSign : List Char → Bool × List Char
  | '+' :: rest => (false, rest)
  | '-' :: rest => (true, rest)
  | digits => (false, digits)

/-- Reads a signed numeral that fits 64 bits. -/
def readSigned (text : String) : Except NumeralFault Int :=
  let (negative, digits) := splitSign text.toList
  if digits.isEmpty || !digits.all isDecimalDigit then .error .invalid
  else
    let value : Int := if negative then -(digitsValue digits : Int) else digitsValue digits
    if -0x8000000000000000 ≤ value && value < 0x8000000000000000 then .ok value else .error .range

end KernelForge.Text
