/-!
Bytes written in base 64: four characters for three bytes, with equality signs at the end where bytes are missing.
-/

namespace KernelForge.Text

/-- The value of a digit in base 64. -/
def base64Digit? (character : Char) : Option Nat :=
  let code := character.toNat
  if 'A' ≤ character && character ≤ 'Z' then some (code - 'A'.toNat)
  else if 'a' ≤ character && character ≤ 'z' then some (code - 'a'.toNat + 26)
  else if '0' ≤ character && character ≤ '9' then some (code - '0'.toNat + 52)
  else if character == '+' then some 62
  else if character == '/' then some 63
  else none

/-- The three bytes of four digits. -/
def base64Group? (a b c d : Char) : Option (List UInt8) := do
  let value := (((← base64Digit? a) * 64 + (← base64Digit? b)) * 64 + (← base64Digit? c)) * 64 + (← base64Digit? d)
  return [UInt8.ofNat (value / 65536), UInt8.ofNat (value / 256), UInt8.ofNat value]

/-- The bytes of groups of four characters. The last one may have an equality sign or two in the place of digits. -/
def base64Groups? : List Char → Option (List UInt8)
  | [] => some []
  | [a, b, '=', '='] => (base64Group? a b 'A' 'A').map (·.take 1)
  | [a, b, c, '='] => (base64Group? a b c 'A').map (·.take 2)
  | a :: b :: c :: d :: rest => do return (← base64Group? a b c d) ++ (← base64Groups? rest)
  | _ => none

/-- The bytes of a text in base 64. Ends of lines do not count. -/
def base64? (text : String) : Option (List UInt8) :=
  base64Groups? (text.toList.filter fun character => character != '\n' && character != '\r')

end KernelForge.Text
