/-!
Places in the text of a document. Five characters end a line, and a carriage return takes a line feed behind it
along. Controls cannot be read. The text comes in pieces of 512 bytes, and a piece with an unreadable character in it
cannot be read at all; what stands in front of it can.
-/

namespace KernelForge.Yaml

/-- A blank inside of a line. -/
def isBlank (character : Char) : Bool :=
  character == ' ' || character == '\t'

/-- A character that ends a line. -/
def isBreak (character : Char) : Bool :=
  character == '\n' || character == '\r' || character == '\u0085' || character == '\u2028' ||
    character == '\u2029'

/-- A blank or the end of a line. -/
def isGap (character : Char) : Bool :=
  isBlank character || isBreak character

/-- Whether a line or the text ends. -/
def endsLine (characters : List Char) : Bool :=
  characters.head?.all isBreak

/-- Whether a word ends: at a blank, at the end of a line or of the text. -/
def endsWord (characters : List Char) : Bool :=
  characters.head?.all isGap

/-- What the end of a line stands for in a scalar: the two separators of Unicode for themselves, all others for a line
    feed. -/
def breakText (character : Char) : Char :=
  if character == '\u2028' || character == '\u2029' then character else '\n'

/-- The ends of lines in a text, as what they stand for. -/
def breaksOf : List Char → List Char
  | [] => []
  | '\r' :: '\n' :: rest => '\n' :: breaksOf rest
  | character :: rest => if isBreak character then breakText character :: breaksOf rest else breaksOf rest

/-- The characters that separate entries of flow collections. -/
def isFlowMark (character : Char) : Bool :=
  character == ',' || character == '[' || character == ']' || character == '\x7b' || character == '\x7d'

/-- The characters that a plain scalar does not start with, unless some other rule allows it. -/
def isIndicator (character : Char) : Bool :=
  isFlowMark character || "-?:#&*!|>'\"%@\x60".toList.contains character

/-- A character of a name: an ASCII letter or digit, a dash or an underscore. -/
def isNameChar (character : Char) : Bool :=
  character.isAlphanum || character == '-' || character == '_'

/-- Whether a character can be read. -/
def isReadable (character : Char) : Bool :=
  let code := character.toNat
  code == 0x09 || code == 0x0A || code == 0x0D || (0x20 ≤ code && code ≤ 0x7E) || code == 0x85 ||
    (0xA0 ≤ code && code ≤ 0xFFFD) || 0x10000 ≤ code

/-- The size of a piece in bytes. -/
def pieceSize : Nat := 512

/-- The pieces in front of the first unreadable one, and whether there is one. `piece` is the piece that is being
    read, last character first, with room for `space` bytes more; `done` is what was read before it. -/
def readablePieces : (space : Nat) → (piece done : List Char) → List Char → List Char × Bool
  | _, piece, done, [] => ((piece ++ done).reverse, false)
  | space, piece, done, character :: rest =>
    if character.utf8Size ≤ space then
      if isReadable character then
        readablePieces (space - character.utf8Size) (character :: piece) done rest
      else (done.reverse, true)
    else if isReadable character then
      readablePieces (pieceSize - character.utf8Size) [character] (piece ++ done) rest
    else ((piece ++ done).reverse, true)

/-- A place in a text. -/
structure Cursor where
  /-- What is left of the text. -/
  rest : List Char
  /-- A bound on the number of characters that are left. -/
  bound : Nat
  /-- Whether something that cannot be read follows `rest`. -/
  cut : Bool := false
  /-- How many characters were passed. -/
  index : Nat := 0
  /-- The line, counted from zero. -/
  line : Nat := 0
  /-- The column, counted from zero. -/
  column : Nat := 0
  /-- Whether nothing but blanks was passed since the last end of a line. -/
  fresh : Bool := false

namespace Cursor

/-- The start of a text. A mark of the byte order is no part of it. -/
def start (text : String) : Cursor :=
  match text.toList with
  | '\ufeff' :: rest =>
    let (readable, cut) := readablePieces (pieceSize - 3) [] [] rest
    { rest := readable, bound := text.length, cut }
  | characters =>
    let (readable, cut) := readablePieces pieceSize [] [] characters
    { rest := readable, bound := text.length, cut }

/-- Fails if one of the next characters, of which a number is looked at, cannot be read. -/
def require (cursor : Cursor) (count : Nat) : Option Unit :=
  if cursor.cut && (cursor.rest.take count).length < count then none else some ()

/-- Whether a character comes next. -/
def isAt (cursor : Cursor) (character : Char) : Bool :=
  cursor.rest.head? == some character

/-- The place after the next character, which does not end a line. -/
def step (cursor : Cursor) : Cursor :=
  match cursor.rest with
  | [] => cursor
  | character :: rest =>
    { cursor with
      rest
      index := cursor.index + 1
      column := cursor.column + 1
      fresh := cursor.fresh && isBlank character }

/-- The place after a number of characters of the same line. -/
def advance (cursor : Cursor) : Nat → Cursor
  | 0 => cursor
  | count + 1 => cursor.step.advance count

/-- The place after the characters of the line that meet a condition. -/
def past (cursor : Cursor) (condition : Char → Bool) : Cursor :=
  cursor.advance (cursor.rest.takeWhile condition).length

/-- The place after the end of the line, if one comes next. -/
def nextLine (cursor : Cursor) : Cursor :=
  match cursor.rest with
  | '\r' :: '\n' :: rest =>
    { cursor with rest, index := cursor.index + 2, line := cursor.line + 1, column := 0, fresh := true }
  | character :: rest =>
    if isBreak character then
      { cursor with rest, index := cursor.index + 1, line := cursor.line + 1, column := 0, fresh := true }
    else cursor
  | [] => cursor

/-- The start of a line at the end of a text, as if the last line had an end. -/
def endLine (cursor : Cursor) : Cursor :=
  if cursor.column == 0 then cursor else { cursor with line := cursor.line + 1, column := 0 }

/-- The place after a character or the end of a line. -/
def next (cursor : Cursor) : Cursor :=
  if cursor.rest.head?.any isBreak then cursor.nextLine else cursor.step

/-- The place after the blanks and ends of lines that come next. The fuel bounds their number. -/
def pastGap : Nat → Cursor → Cursor
  | 0, cursor => cursor
  | fuel + 1, cursor => if cursor.rest.head?.any isGap then pastGap fuel cursor.next else cursor

/-- Whether the blanks and ends of lines that come next have a tab in front of a column in a line of its own. The fuel
    bounds their number. -/
def hasTabBefore (column : Int) : (fuel : Nat) → (afterBreak : Bool) → Cursor → Bool
  | 0, _, _ => false
  | fuel + 1, afterBreak, cursor =>
    match cursor.rest with
    | [] => false
    | character :: _ =>
      if !isGap character then false
      else if afterBreak && character == '\t' && (cursor.column : Int) < column then true
      else hasTabBefore column fuel (afterBreak || isBreak character) cursor.next

/-- Whether three characters that mark a document start the line. -/
def atMarker (cursor : Cursor) (mark : Char) : Bool :=
  cursor.column == 0 &&
    match cursor.rest with
    | a :: b :: c :: rest => a == mark && b == mark && c == mark && endsWord rest
    | _ => false

/-- Whether a document starts or ends at the start of the line. -/
def atDocumentMarker (cursor : Cursor) : Bool :=
  cursor.atMarker '-' || cursor.atMarker '.'

/-- The blanks and ends of lines that come next. -/
def gap (cursor : Cursor) : List Char :=
  cursor.rest.takeWhile isGap

/-- The place after the blanks and ends of lines that come next. -/
def afterGap (cursor : Cursor) : Cursor :=
  pastGap cursor.gap.length cursor

end Cursor

end KernelForge.Yaml
