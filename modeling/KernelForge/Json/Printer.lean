import KernelForge.Json.Value
import KernelForge.Text.Quoted

/-!
JSON values as text, either without any blanks or with a line for each item, two blanks deeper than what it
is part of. The three characters that have a meaning in HTML are escaped as well, and so are the two line
separators of Unicode.
-/

namespace KernelForge.Json

/-- One character of a string. -/
def escaped (character : Char) : List Char :=
  match character with
  | '"' => ['\\', '"']
  | '\\' => ['\\', '\\']
  | '\n' => ['\\', 'n']
  | '\r' => ['\\', 'r']
  | '\t' => ['\\', 't']
  | _ =>
    let code := character.toNat
    if code < 0x20 || character == '<' || character == '>' || character == '&' || code == 0x2028 ||
        code == 0x2029 then
      '\\' :: 'u' :: Text.hexPadded 4 code
    else [character]

/-- A string between quotes. -/
def string (text : String) : String :=
  String.ofList ('"' :: (text.toList.flatMap escaped ++ ['"']))

/-- How items are set apart: what stands in front of an item at a depth, and after the colon of a member. -/
structure Layout where
  newline : Nat → String
  colon : String

/-- Everything on one line without blanks. -/
def Layout.compact : Layout := ⟨fun _ => "", ":"⟩

/-- A line for each item, two blanks for each depth. -/
def Layout.indented : Layout :=
  ⟨fun depth => "\n" ++ String.ofList (List.replicate (2 * depth) ' '), ": "⟩

mutual

/-- A value at a depth. -/
def Value.write (layout : Layout) (depth : Nat) : Value → String
  | .null => "null"
  | .boolean value => if value then "true" else "false"
  | .number text => text
  | .text value => string value
  | .list [] => "[]"
  | .list (first :: rest) =>
    "[" ++ layout.newline (depth + 1) ++ first.write layout (depth + 1) ++
      writeItems layout (depth + 1) rest ++ layout.newline depth ++ "]"
  | .object [] => "\x7b\x7d"
  | .object ((key, value) :: rest) =>
    "\x7b" ++ layout.newline (depth + 1) ++ string key ++ layout.colon ++ value.write layout (depth + 1) ++
      writeMembers layout (depth + 1) rest ++ layout.newline depth ++ "\x7d"

/-- The further items of a list. -/
def writeItems (layout : Layout) (depth : Nat) : List Value → String
  | [] => ""
  | item :: rest =>
    "," ++ layout.newline depth ++ item.write layout depth ++ writeItems layout depth rest

/-- The further members of an object. -/
def writeMembers (layout : Layout) (depth : Nat) : List (String × Value) → String
  | [] => ""
  | (key, value) :: rest =>
    "," ++ layout.newline depth ++ string key ++ layout.colon ++ value.write layout depth ++
      writeMembers layout depth rest

end

/-- A value on one line. -/
def Value.compact (value : Value) : String :=
  value.write .compact 0

/-- A value with a line for each item. -/
def Value.indented (value : Value) : String :=
  value.write .indented 0

end KernelForge.Json
