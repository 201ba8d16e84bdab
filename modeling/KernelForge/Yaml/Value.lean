import KernelForge.Text.Base64
import KernelForge.Text.Bytes
import KernelForge.Text.Literal
import KernelForge.Text.Timestamp

/-!
What a scalar denotes. The text of a plain scalar tells whether it is nothing, a truth value, a number, a point in time
or a text; integers may be written in base two, eight, ten or sixteen, with underscores between digits. A tag says what
a scalar has to be, and a scalar that is something else is malformed.
-/

namespace KernelForge.Yaml

/-- The value of a scalar. -/
inductive Value
  | null
  | boolean (value : Bool)
  | integer (value : Int)
  | number (value : Float)
  | time
  | text (value : String)

/-- The tag of values of a kind. -/
def Value.tag : Value → String
  | .null => "!!null"
  | .boolean _ => "!!bool"
  | .integer _ => "!!int"
  | .number _ => "!!float"
  | .time => "!!timestamp"
  | .text _ => "!!str"

/-- A magnitude with its sign, if it fits 64 bits. Without a sign there is one bit more. -/
def withSign? (negative positive : Bool) (magnitude : Nat) : Option Int :=
  let limit :=
    if negative then 0x8000000000000000 else if positive then 0x7FFFFFFFFFFFFFFF else 0xFFFFFFFFFFFFFFFF
  if magnitude ≤ limit then some (if negative then -(magnitude : Int) else magnitude) else none

/-- An integer that fits 64 bits. The sign can also stand behind the mark of base two or eight. -/
def integer? (characters : List Char) : Option Int :=
  match characters with
  | '0' :: 'b' :: '-' :: digits => (Text.baseValue? 2 digits).bind (withSign? true false)
  | '0' :: 'b' :: '+' :: digits => (Text.baseValue? 2 digits).bind (withSign? false true)
  | '0' :: 'o' :: '-' :: digits => (Text.baseValue? 8 digits).bind (withSign? true false)
  | '0' :: 'o' :: '+' :: digits => (Text.baseValue? 8 digits).bind (withSign? false true)
  | '-' :: digits => (Text.magnitude? digits).bind (withSign? true false)
  | '+' :: digits => (Text.magnitude? digits).bind (withSign? false true)
  | digits => (Text.magnitude? digits).bind (withSign? false false)

/-- The value of a text that starts with a digit or a sign. Underscores in it do not count. -/
def numeral (text : String) : Value :=
  let characters := text.toList.filter (· != '_')
  match integer? characters, Text.double? characters with
  | some value, _ => .integer value
  | none, some value => .number value
  | none, none => .text text

/-- What a plain scalar denotes. Points in time are only told apart from texts when `times` says so. -/
def resolve (times : Bool) (text : String) : Value :=
  if ["", "~", "null", "Null", "NULL"].contains text then .null
  else if ["true", "True", "TRUE"].contains text then .boolean true
  else if ["false", "False", "FALSE"].contains text then .boolean false
  else if [".nan", ".NaN", ".NAN"].contains text then .number (0 / 0)
  else if [".inf", ".Inf", ".INF", "+.inf", "+.Inf", "+.INF"].contains text then .number (1 / 0)
  else if ["-.inf", "-.Inf", "-.INF"].contains text then .number (-1 / 0)
  else
    match text.toList.head? with
    | none => .null
    | some first =>
      if first == '.' then ((Text.number? text).map Value.number).getD (.text text)
      else if Text.isDecimalDigit first || first == '+' || first == '-' then
        if times && Text.isTimestamp text then .time else numeral text
      else .text text

/-- The tags that a scalar of the kind can have without being looked at again. -/
def isKindTag (tag : String) : Bool :=
  ["!!null", "!!bool", "!!int", "!!float", "!!timestamp"].contains tag

/-- The value of a scalar with a tag. An integer of 64 bits with a sign can be a number of the other kind. -/
def valueWithTag? (tag text : String) : Option Value :=
  if tag = "!!binary" then (Text.base64? text).map fun bytes => .text (Text.ofBytes bytes)
  else if isKindTag tag then
    let value := resolve (tag = "!!timestamp") text
    if value.tag = tag then some value
    else
      match value with
      | .integer value =>
        if tag = "!!float" && value < 0x8000000000000000 then some (.number (Float.ofInt value)) else none
      | _ => none
  else some (.text text)

end KernelForge.Yaml
