import KernelForge.Command.Verb
import KernelForge.Text.Blank

/-!
Reading the arguments of the program: which command is meant, what its options are set to, and what else was
given. Options and other words may be mixed. A word that names a command below the current one ends the options
of the current one.
-/

namespace KernelForge.Command

/-- Options with their values; of two settings of one option the one in front counts. -/
abbrev Settings := List (String × String)

namespace Settings

/-- The value that an option was given. -/
def value? (settings : Settings) (name : String) : Option String :=
  (settings.find? (·.1 == name)).map (·.2)

/-- Whether an option was given. -/
def has (settings : Settings) (name : String) : Bool :=
  (settings.value? name).isSome

/-- A text, or what it is when it was not given. -/
def text (settings : Settings) (name fallback : String) : String :=
  (settings.value? name).getD fallback

/-- Whether a switch is on. -/
def switch (settings : Settings) (name : String) : Bool :=
  ((settings.value? name).bind Text.truth?).getD false

/-- An integer, or what it is when it was not given. -/
def integer (settings : Settings) (name : String) (fallback : Int64) : Int64 :=
  ((settings.value? name).bind Text.integer64?).getD fallback

/-- A number, which is zero when it was not given. -/
def number (settings : Settings) (name : String) : Float :=
  ((settings.value? name).bind Text.number?).getD 0

end Settings

/-- What was read so far: options and other words. -/
structure Reading where
  settings : Settings := []
  words : List String := []

/-- The name of an option and the value behind an equals sign, if there is one. -/
def splitOption (body : List Char) : String × Option String :=
  let name := String.ofList (body.takeWhile (· != '='))
  match body.dropWhile (· != '=') with
  | [] => (name, none)
  | _ :: value => (name, some (String.ofList value))

/-- Whether a word with one dash in front of the character is an option. Of a character beyond the first 128 its
    leading byte decides, which is no letter for the characters from U+05C0 to U+05FF. -/
def startsOption (character : Char) : Bool :=
  character.isAlpha ||
    (0x80 ≤ character.toNat && !(0x5C0 ≤ character.toNat && character.toNat < 0x600))

/-- Reads an option, perhaps with the argument that follows it as its value; the flag tells whether it took
    that. Nothing means that the option is unknown, has no value or has one of the wrong kind. A value behind an
    equals sign may be empty only for a switch. -/
def readOption (verb : Verb) (body : List Char) (following : Option String) (held : Reading) :
    Option (Reading × Bool) := do
  let (name, behind) := splitOption body
  let form ← verb.option? name
  let (value, taken) ←
    match form.kind, behind with
    | .switch, _ => some (if behind.getD "" = "" then "true" else behind.getD "", false)
    | _, some value => if value.isEmpty then none else some (value, false)
    | _, none => following.map fun value => (value, true)
  if form.kind.accepts value then
    some ({ held with settings := (form.name, value) :: held.settings }, taken)
  else none

/-- What a word at the front of the arguments is. -/
inductive Word
  | blank
  | dash
  | doubleDash
  | option (body : List Char)
  /-- A dash before something that is no letter: neither this nor what follows are options. -/
  | plain
  | other
  deriving DecidableEq, Repr

/-- What a word is by its first characters. -/
def Word.of (word : String) : Word :=
  match word.toList with
  | [] => .blank
  | ['-'] => .dash
  | ['-', '-'] => .doubleDash
  | '-' :: '-' :: body => .option body
  | '-' :: first :: body => if startsOption first then .option (first :: body) else .plain
  | _ => .other

/-- Reads the arguments of a command, up to the name of a command below it. -/
def scan (verb : Verb) : List String → Reading → Option Reading
  | [], held => some held
  | argument :: rest, held =>
    let word := Text.trim argument
    match Word.of word with
    | .blank => some held
    | .dash => some { held with words := held.words ++ [word] }
    | .doubleDash => some { held with words := held.words ++ rest }
    | .plain => some { held with words := held.words ++ (argument :: rest) }
    | .option body =>
      match readOption verb body rest.head? held with
      | none => none
      | some (next, false) => scan verb rest next
      | some (next, true) =>
        match rest with
        | [] => some next
        | _ :: later => scan verb later next
    | .other =>
      if (verb.child? word).isSome then some { held with words := held.words ++ (argument :: rest) }
      else scan verb rest { held with words := held.words ++ [word] }

/-- A command with everything it was given. -/
structure Invocation where
  verb : Verb
  settings : Settings
  words : List String

/-- What the arguments of the program come to. -/
inductive Request
  /-- The options cannot be read. -/
  | misused
  /-- Help is asked for of a command, perhaps about one below it. -/
  | helpWanted (verb : Verb) (words : List String)
  | invoked (invocation : Invocation)

/-- Reads the arguments after the name of a command. The depth bounds how far commands are nested. -/
def resolve : Nat → Verb → List String → Settings → Request
  | depth, verb, arguments, settings =>
    match scan verb arguments { settings } with
    | none => .misused
    | some reading =>
      if reading.settings.switch helpOption.name then .helpWanted verb reading.words
      else
        match depth, reading.words with
        | deeper + 1, word :: rest =>
          match verb.child? word with
          | some child => resolve deeper child rest reading.settings
          | none => .invoked ⟨verb, reading.settings, reading.words⟩
        | _, words => .invoked ⟨verb, reading.settings, words⟩

/-- Reads the arguments of the program. -/
def Request.parse (arguments : List String) : Request :=
  resolve 4 .program arguments []

/-- The options that a command needs and was not given. -/
def Invocation.missing (invocation : Invocation) : List String :=
  ((invocation.verb.options.filter (·.required)).map (·.name)).filter fun name => !invocation.settings.has name

end KernelForge.Command
