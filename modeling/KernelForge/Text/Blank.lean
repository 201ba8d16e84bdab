/-!
White space and the cutting of text at it. The class is the White_Space property of Unicode, which has
25 members; names that reach the library from outside are trimmed by it before they are compared.
-/

namespace KernelForge.Text

/-- Whether a character has the Unicode property White_Space. -/
def isBlank (character : Char) : Bool :=
  let code := character.toNat
  (0x09 ≤ code && code ≤ 0x0D) || code == 0x20 || code == 0x85 || code == 0xA0 ||
    code == 0x1680 || (0x2000 ≤ code && code ≤ 0x200A) || code == 0x2028 || code == 0x2029 ||
    code == 0x202F || code == 0x205F || code == 0x3000

/-- The characters without the blanks at both ends. -/
def trimChars (characters : List Char) : List Char :=
  ((characters.dropWhile isBlank).reverse.dropWhile isBlank).reverse

/-- The text without the blanks at both ends. -/
def trim (text : String) : String :=
  String.ofList (trimChars text.toList)

/-- The pieces of a text between the occurrences of a separator; a text without it is one piece. -/
def pieces (separator : Char) (text : String) : List String :=
  (text.toList.splitOn separator).map String.ofList

/-- The text after a leading `start`, or `none` when it does not begin so. -/
def after? (start text : String) : Option String :=
  if start.toList.isPrefixOf text.toList then
    some (String.ofList (text.toList.drop start.toList.length))
  else none

/-- The text without one leading `start`, if it has one. -/
def dropStart (start text : String) : String :=
  (after? start text).getD text

/-- The text without one trailing `ending`, if it has one. -/
def dropEnding (ending text : String) : String :=
  if ending.toList.isSuffixOf text.toList then
    String.ofList (text.toList.take (text.toList.length - ending.toList.length))
  else text

/-- Whether the text has the given character. -/
def holds (text : String) (character : Char) : Bool :=
  text.toList.contains character

/-- Texts in a row with a separator between neighbours. -/
def joined (separator : String) (texts : List String) : String :=
  separator.intercalate texts

end KernelForge.Text
