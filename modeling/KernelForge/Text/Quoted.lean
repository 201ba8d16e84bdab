import KernelForge.Text.Printable

/-!
Quoted text: a string between double quotes in which every character can be read. A quote and a backslash
are escaped, the seven named controls have their letter, other characters that are not printable stand as
their code in hexadecimal, and printable characters of any script stand for themselves.
-/

namespace KernelForge.Text

/-- The hexadecimal digits of a number, lower case, with zeros in front up to a width. -/
def hexPadded (width value : Nat) : List Char :=
  let digits := Nat.toDigits 16 value
  List.replicate (width - digits.length) '0' ++ digits

/-- The letter that names a control character after a backslash. -/
def controlLetter? (character : Char) : Option Char :=
  match character.toNat with
  | 7 => some 'a'
  | 8 => some 'b'
  | 9 => some 't'
  | 10 => some 'n'
  | 11 => some 'v'
  | 12 => some 'f'
  | 13 => some 'r'
  | _ => none

/-- One character as it stands inside quotes. -/
def quotedChar (character : Char) : List Char :=
  if character == '"' || character == '\\' then ['\\', character]
  else if isPrintable character then [character]
  else match controlLetter? character with
    | some letter => ['\\', letter]
    | none =>
      let code := character.toNat
      if code < 0x80 then '\\' :: 'x' :: hexPadded 2 code
      else if code < 0x10000 then '\\' :: 'u' :: hexPadded 4 code
      else '\\' :: 'U' :: hexPadded 8 code

/-- The text in double quotes. -/
def quote (text : String) : String :=
  String.ofList ('"' :: (text.toList.flatMap quotedChar ++ ['"']))

end KernelForge.Text
