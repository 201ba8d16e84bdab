import KernelForge.Text.Bytes
import KernelForge.Text.Literal

/-!
The pieces of JSON text, as bytes: blanks, words, strings, and values that are passed over without being looked at.
A byte zero ends the text.

What is passed over is only checked as far as it takes to find its end: of an object only the braces are counted, of
a list only the brackets, outside of strings. There are two ways of reading. A document is read whole; of a request
only the first value is, whatever follows it.
-/

namespace KernelForge.Json

/-- The two ways of reading. -/
inductive Mode
  /-- The text is one value, and unknown members are passed over. -/
  | document
  /-- The text starts with a value, and unknown members are refused. -/
  | request
  deriving DecidableEq, Repr

/-- The byte of a character below 128. -/
abbrev ascii (character : Char) : UInt8 :=
  character.toNat.toUInt8

/-- The character of a byte below 128. -/
def asciiChar (byte : UInt8) : Char :=
  Char.ofNat byte.toNat

/-- A quote. -/
@[match_pattern]
abbrev quoteByte : UInt8 := 0x22

/-- A backslash. -/
@[match_pattern]
abbrev escapeByte : UInt8 := 0x5C

/-- The letter `u`. -/
@[match_pattern]
abbrev unitByte : UInt8 := 0x75

/-- Blanks between tokens. -/
def isBlank (byte : UInt8) : Bool :=
  byte == 0x20 || byte == 0x0A || byte == 0x09 || byte == 0x0D

/-- The bytes after leading blanks. -/
def skipBlanks (bytes : List UInt8) : List UInt8 :=
  bytes.dropWhile isBlank

/-- Whether the text ends here. -/
def atEnd (bytes : List UInt8) : Bool :=
  bytes.headD 0 == 0

/-- A decimal digit. -/
def isDigit (byte : UInt8) : Bool :=
  0x30 ≤ byte && byte ≤ 0x39

/-- A byte that can occur in a number. -/
def isNumeric (byte : UInt8) : Bool :=
  isDigit byte || byte == ascii '-' || byte == ascii '+' || byte == ascii '.' || byte == ascii 'e' ||
    byte == ascii 'E'

/-- The bytes after a word. In a request the last letter of the word may be missing at the end of the text. -/
def afterWord? (mode : Mode) (word : String) (bytes : List UInt8) : Option (List UInt8) :=
  let letters := Text.bytesOf word
  if letters.isPrefixOf bytes then some (bytes.drop letters.length)
  else if mode = .request && letters.dropLast.isPrefixOf bytes && atEnd (bytes.drop (letters.length - 1)) then
    some []
  else none

/-- The bytes after the closing quote of a string. A backslash takes the byte behind it along. -/
def afterString? : List UInt8 → Option (List UInt8)
  | [] => none
  | quoteByte :: rest => some rest
  | escapeByte :: next :: rest => if next = 0 then none else afterString? rest
  | byte :: rest => if byte = 0 then none else afterString? rest

/-- How deep values may be nested. -/
def deepest : Int := 10000

/-- The bytes after the end of an object or a list, whose opening and closing bytes are given. `pending` of its own
    kind are open, and `depth` of both kinds. -/
def afterNested? (opening closing : UInt8) :
    (inString : Bool) → (pending : Nat) → (depth : Int) → List UInt8 → Option (List UInt8)
  | _, _, _, [] => none
  | true, pending, depth, escapeByte :: next :: rest =>
    if next = 0 then none else afterNested? opening closing true pending depth rest
  | inString, pending, depth, byte :: rest =>
    if byte = 0 then none
    else if inString then afterNested? opening closing (byte != quoteByte) pending depth rest
    else if byte = quoteByte then afterNested? opening closing true pending depth rest
    else if byte = ascii '[' || byte = 0x7B then
      if deepest < depth + 1 then none
      else afterNested? opening closing false (if byte = opening then pending + 1 else pending) (depth + 1) rest
    else if byte = closing then
      if pending ≤ 1 then some rest else afterNested? opening closing false (pending - 1) (depth - 1) rest
    else if byte = ascii ']' || byte = 0x7D then afterNested? opening closing false pending (depth - 1) rest
    else afterNested? opening closing false pending depth rest

/-- The bytes after a value that is passed over at a depth. In a request everything in front of a value is passed
    over with it. -/
def afterValue? (mode : Mode) (depth : Nat) : List UInt8 → Option (List UInt8)
  | [] => none
  | byte :: rest =>
    if byte = 0 then none
    else if isBlank byte then afterValue? mode depth rest
    else if byte = 0x7B then afterNested? 0x7B 0x7D false 1 (depth + 1) rest
    else if byte = ascii '[' then afterNested? (ascii '[') (ascii ']') false 1 (depth + 1) rest
    else if byte = quoteByte then afterString? rest
    else if byte = ascii '-' || isDigit byte then some (rest.dropWhile isNumeric)
    else if byte = ascii 'n' then afterWord? mode "ull" rest
    else if byte = ascii 't' then afterWord? mode "rue" rest
    else if byte = ascii 'f' then afterWord? mode "alse" rest
    else if mode = .request then afterValue? mode depth rest
    else none

/-- A value as it is written, and what follows it. -/
def rawValue? (mode : Mode) (depth : Nat) (bytes : List UInt8) : Option (List UInt8 × List UInt8) :=
  let start := skipBlanks bytes
  (afterValue? mode depth start).map fun rest => (start.take (start.length - rest.length), rest)

/-- A part of a string: a byte that stands for itself, or a code unit of 16 bits. -/
inductive Part
  | byte (value : UInt8)
  | unit (value : Nat)
  deriving DecidableEq, Repr

/-- The byte that a letter after a backslash stands for. -/
def escape? (letter : UInt8) : Option UInt8 :=
  match asciiChar letter with
  | '"' => some 0x22
  | '\\' => some 0x5C
  | '/' => some 0x2F
  | 'b' => some 0x08
  | 'f' => some 0x0C
  | 'n' => some 0x0A
  | 'r' => some 0x0D
  | 't' => some 0x09
  | _ => none

/-- The value of four digits, of which those that are not hexadecimal count as zero. -/
def unitValue (digits : List UInt8) : Nat :=
  digits.foldl (fun value digit => 16 * value + (Text.hexDigit? (asciiChar digit)).getD 0) 0

/-- The value of four hexadecimal digits. -/
def unit? (digits : List UInt8) : Option Nat :=
  if digits.all fun digit => (Text.hexDigit? (asciiChar digit)).isSome then some (unitValue digits) else none

/-- The parts of a string up to its closing quote, and what follows it. Any byte may stand in a string, and a letter
    that is no escape stands for the byte zero. -/
def looseParts? : List UInt8 → Option (List Part × List UInt8)
  | [] => none
  | quoteByte :: rest => some ([], rest)
  | escapeByte :: unitByte :: a :: b :: c :: d :: rest => do
    let unit ← unit? [a, b, c, d]
    let (parts, after) ← looseParts? rest
    return (.unit unit :: parts, after)
  | escapeByte :: letter :: rest => do
    let (parts, after) ← looseParts? rest
    if letter = unitByte then none else return (.byte ((escape? letter).getD 0) :: parts, after)
  | byte :: rest => do
    let (parts, after) ← looseParts? rest
    if byte = 0 then none else return (.byte byte :: parts, after)

/-- The parts of a string up to the closing quote at its end. Controls have to be escaped, and a letter that is no
    escape is refused; an apostrophe may be escaped. -/
def strictParts? : List UInt8 → Option (List Part)
  | [] => none
  | [quoteByte] => some []
  | escapeByte :: unitByte :: a :: b :: c :: d :: rest => do
    let unit ← unit? [a, b, c, d]
    return .unit unit :: (← strictParts? rest)
  | escapeByte :: letter :: rest => do
    let byte ← if letter = ascii '\'' then some letter else escape? letter
    return .byte byte :: (← strictParts? rest)
  | byte :: rest => do
    if byte < 0x20 || byte = quoteByte then none else return .byte byte :: (← strictParts? rest)

/-- The bytes of a code unit. Half of a pair alone stands for the replacement character. -/
def unitBytes (unit : Nat) : List UInt8 :=
  String.utf8EncodeChar (if 0xD800 ≤ unit && unit < 0xE000 then '\ufffd' else Char.ofNat unit)

/-- The bytes of parts. The two halves of a pair make one character. -/
def partBytes : List Part → List UInt8
  | [] => []
  | .byte value :: rest => value :: partBytes rest
  | .unit first :: .unit second :: rest =>
    if 0xD800 ≤ first && first < 0xDC00 && 0xDC00 ≤ second && second < 0xE000 then
      String.utf8EncodeChar (Char.ofNat (0x10000 + (first - 0xD800) * 0x400 + (second - 0xDC00))) ++ partBytes rest
    else unitBytes first ++ partBytes (.unit second :: rest)
  | .unit value :: rest => unitBytes value ++ partBytes rest

/-- A string without its quotes; anything else, and a string that is not well formed, as it is written. -/
def unquoted (raw : List UInt8) : List UInt8 :=
  match raw with
  | quoteByte :: rest => ((strictParts? rest).map partBytes).getD raw
  | _ => raw

/-- A letter from `A` to `Z` as its small one. -/
def smallByte (byte : UInt8) : UInt8 :=
  if 0x41 ≤ byte && byte ≤ 0x5A then byte + 0x20 else byte

/-- The keys that have given bytes from an index on, the case of letters aside. -/
def keysWith (keys : List String) (index : Nat) (bytes : List UInt8) : List String :=
  keys.filter fun key => (bytes.map smallByte).isPrefixOf ((Text.bytesOf key).drop index)

/-- The known key that a member has, after its opening quote, and what follows the closing one. The candidates are
    those that agree so far; of several the first one counts. It is only looked at when the member's key is written
    with at least as many bytes as the candidate has, however much of the candidate they spell. -/
def keyFrom? (mode : Mode) :
    (candidates : List String) → (index written : Nat) → List UInt8 → Option (Option String × List UInt8)
  | _, _, _, [] => none
  | candidates, _, written, quoteByte :: rest =>
    some (candidates.head?.filter fun key => (Text.bytesOf key).length ≤ written, rest)
  | candidates, index, written, escapeByte :: unitByte :: a :: b :: c :: d :: rest =>
    let bytes := unitBytes (unitValue [a, b, c, d])
    match keysWith candidates index bytes with
    | [] => (afterString? (a :: b :: c :: d :: rest)).map (none, ·)
    | kept => keyFrom? mode kept (index + bytes.length) (written + 6) rest
  | candidates, index, written, escapeByte :: letter :: rest =>
    if letter = unitByte then none
    else if (escape? letter).isSome then (afterString? rest).map (none, ·)
    else if mode = .request then none
    else keyFrom? mode candidates index (written + 2) rest
  | candidates, index, written, byte :: rest =>
    if byte = 0 then none
    else
      match keysWith candidates index [byte] with
      | [] => (afterString? rest).map (none, ·)
      | kept => keyFrom? mode kept (index + 1) (written + 1) rest

/-- The known key that a member has, with what follows it. -/
def memberKey? (mode : Mode) (keys : List String) (bytes : List UInt8) : Option (Option String × List UInt8) :=
  match skipBlanks bytes with
  | quoteByte :: rest => keyFrom? mode (keys.mergeSort fun first second => first ≤ second) 0 0 rest
  | _ => none

end KernelForge.Json
