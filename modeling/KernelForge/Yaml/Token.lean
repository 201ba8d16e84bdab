import KernelForge.Text.Bytes
import KernelForge.Yaml.Scalar

/-!
The tokens of a document, and how those are read that have a form of their own: anchors and the aliases that refer to
them, tags, and directives.
-/

namespace KernelForge.Yaml

/-- A token. The collections in block context have no characters of their own: they start and end with the
    indentation. -/
inductive Token
  | streamEnd
  | version (major minor : Nat)
  | tagHandle (handle : String) (expansion : String)
  | documentStart
  | documentEnd
  | blockSequence
  | blockMapping
  | blockEnd
  | flowSequence
  | flowSequenceEnd
  | flowMapping
  | flowMappingEnd
  | blockEntry
  | flowEntry
  | key
  | value
  | alias (name : String)
  | anchor (name : String)
  | tag (handle suffix : String)
  | scalar (plain : Bool) (text : String)
  deriving DecidableEq, Repr

/-- A token and the line that it starts on. -/
structure PlacedToken where
  token : Token
  line : Nat
  deriving DecidableEq, Repr

/-- The characters that can follow the name of an anchor, besides the end of a word. -/
def endsAnchor (characters : List Char) : Bool :=
  endsWord characters || characters.head?.any ("?:,]\x7d%@\x60".toList.contains ·)

/-- The name of an anchor or an alias, after its mark. -/
def anchorName (cursor : Cursor) : Option (String × Cursor) := do
  let name := cursor.step.rest.takeWhile isNameChar
  let after := cursor.advance (1 + name.length)
  after.require 1
  if name.isEmpty || !endsAnchor after.rest then none else return (String.ofList name, after)

/-- A character that can stand in a tag. -/
def isTagChar (character : Char) : Bool :=
  isNameChar character || ";/?:@&=+$,.!~*'()[]%".toList.contains character

/-- How many bytes a character has whose first byte is given. -/
def widthOfLead? (byte : Nat) : Option Nat :=
  if byte < 0x80 then some 1
  else if 0xC0 ≤ byte && byte < 0xE0 then some 2
  else if 0xE0 ≤ byte && byte < 0xF0 then some 3
  else if 0xF0 ≤ byte && byte < 0xF8 then some 4
  else none

/-- A byte written as a percent sign and two hexadecimal digits. -/
def octet? : List Char → Option Nat
  | '%' :: a :: b :: _ => Text.hexValue? [a, b]
  | _ => none

/-- The further bytes of a character, each written as a percent sign and two digits. -/
def furtherOctets : Nat → Cursor → Option (List UInt8 × Cursor)
  | 0, cursor => some ([], cursor)
  | count + 1, cursor => do
    let byte ← octet? cursor.rest
    if byte / 64 ≠ 2 then none
    else
      let (bytes, final) ← furtherOctets count (cursor.advance 3)
      return (UInt8.ofNat byte :: bytes, final)

/-- The bytes of a tag. The fuel bounds the number of characters. -/
def tagBytes : Nat → Cursor → Option (List UInt8 × Cursor)
  | 0, _ => none
  | fuel + 1, cursor => do
    cursor.require 3
    match cursor.rest with
    | [] => return ([], cursor)
    | '%' :: _ =>
      let byte ← octet? cursor.rest
      let width ← widthOfLead? byte
      let (further, after) ← furtherOctets (width - 1) (cursor.advance 3)
      let (bytes, final) ← tagBytes fuel after
      return (UInt8.ofNat byte :: (further ++ bytes), final)
    | character :: _ =>
      if isTagChar character then
        let (bytes, final) ← tagBytes fuel cursor.step
        return (String.utf8EncodeChar character ++ bytes, final)
      else return ([], cursor)

/-- The text of a tag from a place on. -/
def tagText (cursor : Cursor) : Option (String × Cursor) := do
  let (bytes, after) ← tagBytes (cursor.bound + 1) cursor
  return (Text.ofBytes bytes, after)

/-- What can be a handle: an exclamation mark, a name and, perhaps, another mark. -/
def handleText (cursor : Cursor) : String × Cursor :=
  let name := cursor.step.rest.takeWhile isNameChar
  let after := cursor.advance (1 + name.length)
  if after.isAt '!' then (String.ofList ('!' :: name ++ ['!']), after.step)
  else (String.ofList ('!' :: name), after)

/-- A tag: written out between angle brackets, or with a handle. The mark alone is a tag of its own. -/
def tagToken (cursor : Cursor) : Option (Token × Cursor) := do
  let (token, after) ←
    if (cursor.rest.drop 1).head? == some '<' then do
      let (text, after) ← tagText (cursor.advance 2)
      if text.isEmpty || !after.isAt '>' then none else some (Token.tag "" text, after.step)
    else do
      let (handle, after) := handleText cursor
      let (suffix, final) ← tagText after
      if 1 < handle.length && handle.endsWith "!" then
        if suffix.isEmpty then none else some (Token.tag handle suffix, final)
      else
        let suffix := String.ofList (handle.toList.drop 1) ++ suffix
        some (if suffix.isEmpty then Token.tag "" "!" else Token.tag "!" suffix, final)
  after.require 1
  if endsWord after.rest then some (token, after) else none

/-- A part of a version: one or two digits. -/
def versionPart (cursor : Cursor) : Option (Nat × Cursor) :=
  let digits := cursor.rest.takeWhile Text.isDecimalDigit
  if digits.isEmpty || 2 < digits.length then none
  else some (Text.digitsValue digits, cursor.advance digits.length)

/-- The version in a directive. -/
def versionDirective (cursor : Cursor) : Option (Token × Cursor) := do
  let (major, point) ← versionPart (cursor.past isBlank)
  if !point.isAt '.' then none
  else
    let (minor, after) ← versionPart point.step
    return (.version major minor, after)

/-- The handle and its expansion in a directive. -/
def tagDirective (cursor : Cursor) : Option (Token × Cursor) := do
  let start := cursor.past isBlank
  let (handle, after) := handleText start
  if !start.isAt '!' || !(handle == "!" || handle.endsWith "!") || !after.rest.head?.any isBlank then none
  else
    let (expansion, final) ← tagText (after.past isBlank)
    if expansion.isEmpty || !endsWord final.rest then none else return (.tagHandle handle expansion, final)

/-- A directive, with the place after the line that it stands on. -/
def directiveToken (cursor : Cursor) : Option (Token × Cursor) := do
  let name := cursor.step.rest.takeWhile isNameChar
  let named := cursor.advance (1 + name.length)
  if !endsWord named.rest then none
  else
    let (token, after) ←
      match String.ofList name with
      | "YAML" => versionDirective named
      | "TAG" => tagDirective named
      | _ => none
    let after := after.past isBlank
    let after := if after.isAt '#' then after.past (!isBreak ·) else after
    after.require 2
    if endsLine after.rest then some (token, after.nextLine) else none

end KernelForge.Yaml
