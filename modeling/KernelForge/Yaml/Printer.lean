import KernelForge.Text.Quoted
import KernelForge.Yaml.Cursor
import KernelForge.Yaml.Value

/-!
Writing values as YAML in block style. Each level is indented by four blanks, also the items of a list below
their key. A text is written plainly if it reads back as itself; one that would read as a truth value, a
number or nothing is put in double quotes, one whose characters have a meaning of their own in single quotes, and one
of several lines is written line by line. Characters that do not read back are escaped in double quotes.
-/

namespace KernelForge.Yaml

/-- A value to be written. The lists are lists of texts. -/
inductive Tree
  | integer (value : Int)
  | text (value : String)
  | list (items : List String)
  | record (entries : List (String × Tree))

/-- The words for truth values of older versions of the format. -/
def isOldBoolean (text : String) : Bool :=
  ["y", "Y", "yes", "Yes", "YES", "on", "On", "ON", "n", "N", "no", "No", "NO", "off", "Off",
    "OFF"].contains text

/-- Whether a text reads as itself where a value is looked for. -/
def readsAsText (text : String) : Bool :=
  match resolve true text with
  | .text _ => !isOldBoolean text
  | _ => false

/-- Whether a character is written as itself. Those of the upper planes are not, though they could be read. -/
def isWritable (character : Char) : Bool :=
  let code := character.toNat
  code == 0x0A || (0x20 ≤ code && code ≤ 0x7E) || (0xA0 ≤ code && code ≤ 0xFFFD && code != 0xFEFF)

/-- Whether a character of the first kind stands in front of one of the second kind. -/
def hasPair (first second : Char → Bool) (characters : List Char) : Bool :=
  (characters.zip (characters.drop 1)).any fun (left, right) => first left && second right

/-- Whether a text in one line starts with a mark of the format. -/
def startsWithMark : List Char → Bool
  | '-' :: '-' :: '-' :: _ | '.' :: '.' :: '.' :: _ => true
  | [] => false
  | first :: rest =>
    if first == '-' || first == '?' || first == ':' then rest.head?.all isBlank else isIndicator first

/-- Whether a text in one line can stand without quotes: no mark at its start, no blank at its ends, and nothing in it
    that ends a plain scalar. -/
def isPlainSafe (characters : List Char) : Bool :=
  !startsWithMark characters && characters.head? != some ' ' && characters.getLast? != some ' ' &&
    characters.getLast? != some ':' && !hasPair (· == ':') isBlank characters &&
    !hasPair isBlank (· == '#') characters

/-- The ways to write a text. -/
inductive Style
  | plain
  | singleQuoted
  | doubleQuoted
  | literal
  deriving DecidableEq, Repr

/-- The way that a text is written. -/
def styleOf (text : String) : Style :=
  let characters := text.toList
  let special := characters.any fun character => character != '\t' && !isWritable character
  let blankAtEnd := hasPair (· == ' ') isBreak characters
  let quotable := !special && !blankAtEnd && !characters.contains '\t' && !hasPair isBreak (· == ' ') characters
  if characters.contains '\n' then
    if special || blankAtEnd || characters.getLast? == some ' ' then .doubleQuoted else .literal
  else if !readsAsText text || !quotable then .doubleQuoted
  else if characters.any isBreak || !isPlainSafe characters then .singleQuoted
  else .plain

/-- The letter that stands for a character after a backslash. -/
def escapeLetter? (character : Char) : Option Char :=
  match character.toNat with
  | 0x00 => some '0'
  | 0x1B => some 'e'
  | 0x22 => some '"'
  | 0x5C => some '\\'
  | 0x85 => some 'N'
  | 0x2028 => some 'L'
  | 0x2029 => some 'P'
  | _ => Text.controlLetter? character

/-- One character as it stands in double quotes. -/
def escapedChar (character : Char) : List Char :=
  if isWritable character && !isBreak character && character != '"' && character != '\\' then [character]
  else match escapeLetter? character with
    | some letter => ['\\', letter]
    | none =>
      let code := character.toNat
      let digits (width : Nat) := (Text.hexPadded width code).map Char.toUpper
      if code ≤ 0xFF then '\\' :: 'x' :: digits 2
      else if code ≤ 0xFFFF then '\\' :: 'u' :: digits 4
      else '\\' :: 'U' :: digits 8

/-- Blanks up to a column. -/
def blanks (column : Nat) : List Char :=
  List.replicate column ' '

/-- A text with the lines that start in it moved to a column. -/
def moved (column : Nat) : (starts : Bool) → List Char → List Char
  | _, [] => []
  | starts, character :: rest =>
    if isBreak character then character :: moved column true rest
    else (if starts then blanks column else []) ++ character :: moved column false rest

/-- What is said in front of the lines of a text: whether blanks at its start belong to it, and how it ends. -/
def literalHeader (characters : List Char) : List Char :=
  let first := if characters.head?.any fun first => first == ' ' || isBreak first then ['4'] else []
  let last :=
    match characters.reverse with
    | final :: before =>
      if !isBreak final then ['-'] else if before.head?.all isBreak then ['+'] else []
    | [] => ['-']
  '|' :: first ++ last

/-- A text as a scalar, whose lines after the first one start at a column. -/
def scalarText (column : Nat) (text : String) : String :=
  let characters := text.toList
  String.ofList <|
    match styleOf text with
    | .plain => characters
    | .singleQuoted =>
      let doubled := characters.flatMap fun character => if character == '\'' then ['\'', '\''] else [character]
      '\'' :: moved column false doubled ++ ['\'']
    | .doubleQuoted => '"' :: characters.flatMap escapedChar ++ ['"']
    | .literal =>
      let lines := if characters.getLast? == some '\n' then characters.dropLast else characters
      literalHeader characters ++ '\n' :: moved column true lines

/-- Four blanks for each level. -/
def margin (depth : Nat) : String :=
  String.ofList (blanks (4 * depth))

/-- The items of a list at a depth. -/
def writeItems (depth : Nat) (items : List String) : String :=
  String.join (items.map fun item => margin depth ++ "- " ++ scalarText (4 * depth + 2) item ++ "\n")

mutual

/-- What follows a key: a scalar on the same line, or lines of their own one level deeper. -/
def Tree.write (depth : Nat) : Tree → String
  | .integer value => " " ++ toString value ++ "\n"
  | .text value => " " ++ scalarText (4 * depth) value ++ "\n"
  | .list [] => " []\n"
  | .list items => "\n" ++ writeItems depth items
  | .record [] => " \x7b\x7d\n"
  | .record entries => "\n" ++ writeEntries depth entries

/-- The entries of a record at a depth. -/
def writeEntries (depth : Nat) : List (String × Tree) → String
  | [] => ""
  | (key, value) :: rest =>
    margin depth ++ scalarText 0 key ++ ":" ++ value.write (depth + 1) ++ writeEntries depth rest

end

/-- A value as a document. -/
def Tree.document : Tree → String
  | .integer value => toString value ++ "\n"
  | .text value => scalarText 4 value ++ "\n"
  | .list [] => "[]\n"
  | .list items => writeItems 0 items
  | .record [] => "\x7b\x7d\n"
  | .record entries => writeEntries 0 entries

end KernelForge.Yaml
