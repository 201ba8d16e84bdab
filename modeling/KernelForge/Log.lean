import KernelForge.Failure
import KernelForge.Json.Printer
import KernelForge.Text.Blank
import KernelForge.Text.Lower
import KernelForge.Text.Quoted

/-!
Structured log lines. A record has a level, a message and attributes; a log adds attributes and groups of its
own and drops records below its level. There are two formats: words of the form `key=value`, where the keys
carry the names of their groups, and JSON objects, where groups are nested.
-/

namespace KernelForge.Log

/-- How urgent a record is. -/
inductive Level
  | debug
  | info
  | warn
  | error
  deriving DecidableEq, Repr

namespace Level

/-- The number of a level; greater is more urgent. -/
def number : Level → Int
  | debug => -4
  | info => 0
  | warn => 4
  | error => 8

/-- The name of a level. -/
def name : Level → String
  | debug => "DEBUG"
  | info => "INFO"
  | warn => "WARN"
  | error => "ERROR"

/-- The level with a name, whatever the case and the blanks around it; nothing means `info`. -/
def parse (text : String) : Except Failure Level :=
  match Text.lower (Text.trim text) with
  | "debug" => .ok debug
  | "" | "info" => .ok info
  | "warn" | "warning" => .ok warn
  | "error" => .ok error
  | _ => .error (.plain s!"unknown log level {Text.quote text}")

end Level

/-- The form of the lines. -/
inductive Style
  | words
  | json
  deriving DecidableEq, Repr

/-- The form with a name, whatever the case; nothing means words. -/
def Style.parse (text : String) : Except Failure Style :=
  match Text.lower text with
  | "" | "text" => .ok .words
  | "json" => .ok .json
  | _ => .error (.plain s!"unknown log format {Text.quote text} (want text or json)")

/-- What an attribute says, in both formats. -/
structure Content where
  shown : String
  json : Json.Value

namespace Content

/-- A text. -/
def text (value : String) : Content := ⟨value, .text value⟩

/-- A number. -/
def integer (value : Int) : Content := ⟨toString value, .integer value⟩

/-- A truth value. -/
def boolean (value : Bool) : Content := ⟨if value then "true" else "false", .boolean value⟩

/-- Several numbers. -/
def integers (values : List Int) : Content :=
  ⟨"[" ++ " ".intercalate (values.map toString) ++ "]", .list (values.map Json.Value.integer)⟩

/-- Numbers by name. -/
def counts (entries : List (String × Nat)) : Content :=
  ⟨"map[" ++ " ".intercalate (entries.map fun (name, count) => s!"{name}:{count}") ++ "]",
    .object (entries.map fun (name, count) => (name, .natural count))⟩

end Content

/-- An attribute: the groups it is in, its key and what it says. -/
structure Attribute where
  groups : List String := []
  key : String
  content : Content

/-- A record before a log adds to it. -/
structure Record where
  level : Level
  message : String
  attributes : List (String × Content) := []

/-- Whether a word has to be put in quotes. -/
def needsQuotes (text : String) : Bool :=
  text.isEmpty || text.toList.any fun character =>
    let code := character.toNat
    if code < 0x80 then code < 0x20 || character == ' ' || character == '=' || character == '"'
    else character == '\ufffd' || Text.isBlank character || !Text.isPrintable character

/-- A word, in quotes where that is needed. -/
def word (text : String) : String :=
  if needsQuotes text then Text.quote text else text

/-- The key of an attribute behind the names of its groups. -/
def Attribute.path (entry : Attribute) : String :=
  if entry.groups.isEmpty then word entry.key
  else
    let opening := String.join (entry.groups.map (· ++ "."))
    if needsQuotes opening || needsQuotes entry.key then Text.quote (opening ++ entry.key)
    else opening ++ entry.key

/-- One character of a string in a JSON line. -/
def escaped (character : Char) : List Char :=
  if character == '<' || character == '>' || character == '&' then [character] else Json.escaped character

/-- A string in a JSON line. -/
def jsonString (text : String) : String :=
  String.ofList ('"' :: (text.toList.flatMap escaped ++ ['"']))

/-- What an attribute says in a JSON line. -/
def Content.inJson (content : Content) : String :=
  match content.json with
  | .text value => jsonString value
  | value => value.compact

/-- The members of a JSON line after the message. Attributes that share their outermost group are next to
    each other, because groups are only ever added. The fuel bounds the depth of the groups. -/
def members : Nat → List Attribute → String
  | 0, _ => ""
  | fuel + 1, attributes =>
    let own := attributes.takeWhile (·.groups.isEmpty)
    let nested := attributes.dropWhile (·.groups.isEmpty)
    let ownText := own.map fun entry => jsonString entry.key ++ ":" ++ entry.content.inJson
    let nestedText :=
      match nested with
      | [] => []
      | first :: _ =>
        let inner := nested.map fun entry => { entry with groups := entry.groups.tail }
        [jsonString (first.groups.headD "") ++ ":\x7b" ++ members fuel inner ++ "\x7d"]
    ",".intercalate (ownText ++ nestedText)

/-- A log: its form, its level, and what it adds to every record. -/
structure Logger where
  style : Style := .words
  threshold : Level := .info
  attributes : List Attribute := []
  groups : List String := []

namespace Logger

/-- The log with attributes in every record. -/
def withAttributes (logger : Logger) (attributes : List (String × Content)) : Logger :=
  { logger with
    attributes := logger.attributes ++ attributes.map fun (key, content) => ⟨logger.groups, key, content⟩ }

/-- The log with all further attributes in a group. A group without a name is none. -/
def withGroup (logger : Logger) (name : String) : Logger :=
  if name.isEmpty then logger else { logger with groups := logger.groups ++ [name] }

/-- The line of a record, unless its level is too low. -/
def line? (logger : Logger) (record : Record) : Option String :=
  if record.level.number < logger.threshold.number then none
  else
    let attributes := (logger.withAttributes record.attributes).attributes
    match logger.style with
    | .words =>
      let words := attributes.map fun entry => entry.path ++ "=" ++ word entry.content.shown
      some (" ".intercalate (s!"level={record.level.name}" :: ("msg=" ++ word record.message) :: words) ++ "\n")
    | .json =>
      let rest := members (logger.groups.length + 1) attributes
      some (s!"\x7b\"level\":\"{record.level.name}\",\"msg\":{jsonString record.message}" ++
        (if rest.isEmpty then "" else "," ++ rest) ++ "\x7d\n")

/-- The lines of records, one after the other. -/
def lines (logger : Logger) (records : List Record) : String :=
  String.join (records.filterMap logger.line?)

end Logger

end KernelForge.Log
