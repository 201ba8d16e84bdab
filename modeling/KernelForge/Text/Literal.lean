import KernelForge.Text.Decimal

/-!
Literals whose form tells more than decimal numerals: integers in base two, eight, ten or sixteen, numbers with
a binary exponent, truth values and spans of time. Underscores may stand between the digits of a literal.
-/

namespace KernelForge.Text

/-- The value of a hexadecimal digit. -/
def hexDigit? (character : Char) : Option Nat :=
  if '0' ≤ character ∧ character ≤ '9' then some (character.toNat - '0'.toNat)
  else if 'a' ≤ character ∧ character ≤ 'f' then some (character.toNat - 'a'.toNat + 10)
  else if 'A' ≤ character ∧ character ≤ 'F' then some (character.toNat - 'A'.toNat + 10)
  else none

/-- The value of digits in a base up to sixteen; there has to be one. -/
def baseValue? (base : Nat) (digits : List Char) : Option Nat :=
  if digits.isEmpty then none
  else digits.foldlM (fun value digit => do
    let next ← hexDigit? digit
    if next < base then some (base * value + next) else none) 0

/-- The value of a row of hexadecimal digits. -/
def hexValue? (digits : List Char) : Option Nat :=
  baseValue? 16 digits

/-- The magnitude of an integer whose base is told by how it starts: a zero alone in front means base eight. -/
def magnitude? : List Char → Option Nat
  | '0' :: 'x' :: digits => baseValue? 16 digits
  | '0' :: 'X' :: digits => baseValue? 16 digits
  | '0' :: 'b' :: digits => baseValue? 2 digits
  | '0' :: 'B' :: digits => baseValue? 2 digits
  | '0' :: 'o' :: digits => baseValue? 8 digits
  | '0' :: 'O' :: digits => baseValue? 8 digits
  | '0' :: digits => if digits.isEmpty then some 0 else baseValue? 8 digits
  | digits => baseValue? 10 digits

/-- Whether each underscore stands after a digit and before one, as `isDigit` tells digits. The flags say what
    the character in front was. -/
def underscoresSeparate (isDigit : Char → Bool) : (afterDigit afterUnderscore : Bool) → List Char → Bool
  | _, afterUnderscore, [] => !afterUnderscore
  | afterDigit, afterUnderscore, character :: rest =>
    if isDigit character then underscoresSeparate isDigit true false rest
    else if character == '_' then afterDigit && underscoresSeparate isDigit false true rest
    else !afterUnderscore && underscoresSeparate isDigit false false rest

/-- Whether the underscores of a literal without a sign stand where they may. What tells the base counts as a
    digit. -/
def underscoresAllowed : List Char → Bool
  | '0' :: mark :: rest =>
    if mark == 'x' || mark == 'X' then underscoresSeparate (fun digit => (hexDigit? digit).isSome) true false rest
    else if ['b', 'B', 'o', 'O'].contains mark then underscoresSeparate isDecimalDigit true false rest
    else underscoresSeparate isDecimalDigit true false (mark :: rest)
  | characters => underscoresSeparate isDecimalDigit false false characters

/-- An integer of 64 bits. -/
def integer64? (text : String) : Option Int64 := do
  let (negative, literal) := splitSign text.toList
  let magnitude ← magnitude? (literal.filter (· != '_'))
  if !underscoresAllowed literal then none
  else if negative then if magnitude ≤ 0x8000000000000000 then some (Int64.ofInt (-(magnitude : Int))) else none
  else if magnitude < 0x8000000000000000 then some (Int64.ofNat magnitude) else none

/-- The double nearest to `significand · 2 ^ power`. Powers far beyond the range of the format give zero or
    infinity without being computed. -/
def nearestBinary (significand : Nat) (power : Int) : Float :=
  let place := power + Nat.log2 significand
  if significand = 0 then 0
  else if place > 1100 then 1 / 0
  else if place < -1200 then 0
  else if power < 0 then Float.ofScientific (significand * Nat.pow 5 power.natAbs) true power.natAbs
  else Float.ofScientific (significand * Nat.pow 2 power.natAbs) false 0

/-- A hexadecimal number with a binary exponent, after the mark of its base. -/
def binaryScaled? (characters : List Char) : Option Float := do
  let isHex (character : Char) := (hexDigit? character).isSome
  let whole := characters.takeWhile isHex
  let (fraction, rest) :=
    match characters.dropWhile isHex with
    | '.' :: after => (after.takeWhile isHex, after.dropWhile isHex)
    | rest => ([], rest)
  let significand ← hexValue? (whole ++ fraction)
  match rest with
  | mark :: exponent =>
    let (down, digits) := splitSign exponent
    if (mark != 'p' && mark != 'P') || digits.isEmpty || !digits.all isDecimalDigit then none
    else
      let power : Int := if down then -(digitsValue digits : Int) else digitsValue digits
      some (nearestBinary significand (power - 4 * fraction.length))
  | [] => none

/-- A number of double precision: a decimal, a hexadecimal number, or the name of one that is not finite. A
    number beyond the range is none. -/
def number? (text : String) : Option Float :=
  let (negative, literal) := splitSign text.toList
  let signed (value : Float) := if negative then -value else value
  let small := literal.map Char.toLower
  if small == "inf".toList || small == "infinity".toList then some (signed (1 / 0))
  else if text.toList.map Char.toLower == "nan".toList then some (0 / 0)
  else if !underscoresAllowed literal then none
  else
    let bare := literal.filter (· != '_')
    match bare with
    | '0' :: 'x' :: rest | '0' :: 'X' :: rest =>
      (binaryScaled? rest).bind fun value => if value.isInf then none else some (signed value)
    | _ => if bare.head?.any fun first => first == '+' || first == '-' then none
      else (double? bare).map signed

/-- A truth value. -/
def truth? (text : String) : Option Bool :=
  if ["1", "t", "T", "TRUE", "true", "True"].contains text then some true
  else if ["0", "f", "F", "FALSE", "false", "False"].contains text then some false
  else none

/-- The nanoseconds of a unit of time. -/
def timeUnit? (name : String) : Option Nat :=
  match name with
  | "ns" => some 1
  | "us" | "µs" | "μs" => some 1000
  | "ms" => some 1000000
  | "s" => some 1000000000
  | "m" => some 60000000000
  | "h" => some 3600000000000
  | _ => none

/-- The longest span of time, in nanoseconds, that a sum of units may come to on its way. -/
def longestSpan : Nat := 0x8000000000000000

/-- The nanoseconds of a fraction of a unit. Digits are taken as long as their value stays below the longest
    span; the product is taken in double precision and cut. -/
def fractionOfUnit (digits : List Char) (unit : Nat) : Nat :=
  let (value, scale, _) := digits.foldl (fun (value, scale, full) digit =>
    let next := 10 * value + (digit.toNat - '0'.toNat)
    if full || (longestSpan - 1) / 10 < value || longestSpan < next then (value, scale, true)
    else (next, 10 * scale, false)) ((0, 1, false) : Nat × Float × Bool)
  (Float.ofNat value * (Float.ofNat unit / scale)).toUInt64.toNat

/-- One amount of a unit of time in nanoseconds, and what follows it. -/
def spanStep? (characters : List Char) : Option (Nat × List Char) := do
  let whole := characters.takeWhile isDecimalDigit
  let rest := characters.dropWhile isDecimalDigit
  let (fraction, rest) :=
    match rest with
    | '.' :: after => (after.takeWhile isDecimalDigit, after.dropWhile isDecimalDigit)
    | _ => ([], rest)
  let endsUnit (character : Char) := isDecimalDigit character || character == '.'
  let name := rest.takeWhile (!endsUnit ·)
  if whole.isEmpty && fraction.isEmpty then none
  else
    let unit ← timeUnit? (String.ofList name)
    let nanoseconds := digitsValue whole * unit + fractionOfUnit fraction unit
    if digitsValue whole * unit ≤ longestSpan && nanoseconds ≤ longestSpan then
      some (nanoseconds, rest.dropWhile (!endsUnit ·))
    else none

/-- The nanoseconds of amounts of units of time, one after the other. The fuel bounds their number. -/
def spanSum? : Nat → List Char → Option Nat
  | _, [] => some 0
  | 0, _ => none
  | fuel + 1, characters => do
    let (nanoseconds, rest) ← spanStep? characters
    let later ← spanSum? fuel rest
    if nanoseconds + later ≤ longestSpan then some (nanoseconds + later) else none

/-- Whether a text is a span of time: a zero, or amounts of units that 64 bits can hold with their sign. -/
def isSpan (text : String) : Bool :=
  let (negative, literal) := splitSign text.toList
  literal == ['0'] || (!literal.isEmpty &&
    (spanSum? literal.length literal).any fun nanoseconds => negative || nanoseconds < longestSpan)

end KernelForge.Text
