/-!
Texts as bytes in UTF-8. Every text has its bytes; of bytes that are not well formed, each that belongs to no
character stands for the replacement character.
-/

namespace KernelForge.Text

/-- The bytes of a text. -/
def bytesOf (text : String) : List UInt8 :=
  text.toList.flatMap String.utf8EncodeChar

/-- How many bytes follow the first byte of a character, and between what bounds the next one lies. -/
def followers? (lead : UInt8) : Option (Nat × UInt8 × UInt8) :=
  if lead < 0x80 then some (0, 0x80, 0xBF)
  else if lead < 0xC2 then none
  else if lead < 0xE0 then some (1, 0x80, 0xBF)
  else if lead = 0xE0 then some (2, 0xA0, 0xBF)
  else if lead = 0xED then some (2, 0x80, 0x9F)
  else if lead < 0xF0 then some (2, 0x80, 0xBF)
  else if lead = 0xF0 then some (3, 0x90, 0xBF)
  else if lead < 0xF4 then some (3, 0x80, 0xBF)
  else if lead = 0xF4 then some (3, 0x80, 0x8F)
  else none

/-- The number that the first byte of a character contributes, without its marker bits. -/
def leadBits (lead : UInt8) (count : Nat) : Nat :=
  match count with
  | 0 => lead.toNat
  | 1 => lead.toNat % 32
  | 2 => lead.toNat % 16
  | _ => lead.toNat % 8

/-- The character that starts with a byte and goes on with those behind it, and how many of them it takes. -/
def character? (lead : UInt8) (rest : List UInt8) : Option (Char × Nat) := do
  let (count, least, greatest) ← followers? lead
  let tail := rest.take count
  if tail.length = count && tail.all (fun byte => 0x80 ≤ byte && byte ≤ 0xBF) &&
      (tail.take 1).all (fun byte => least ≤ byte && byte ≤ greatest) then
    let value := tail.foldl (fun value byte => 64 * value + byte.toNat % 64) (leadBits lead count)
    some (Char.ofNat value, count)
  else none

/-- The characters of bytes, of which a number at the front is already spoken for. -/
def charactersFrom : Nat → List UInt8 → List Char
  | _, [] => []
  | taken + 1, _ :: rest => charactersFrom taken rest
  | 0, byte :: rest =>
    match character? byte rest with
    | some (character, count) => character :: charactersFrom count rest
    | none => '\ufffd' :: charactersFrom 0 rest

/-- The text of bytes. -/
def ofBytes (bytes : List UInt8) : String :=
  String.ofList (charactersFrom 0 bytes)

end KernelForge.Text
