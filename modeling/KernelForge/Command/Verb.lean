import KernelForge.Text.Literal

/-!
The commands and their options. An option has a name, perhaps a letter, and a kind of value; some have to be
given. The options of the program itself can stand after every command.
-/

namespace KernelForge.Command

/-- What the value of an option can be. -/
inductive OptionKind
  | text
  /-- A truth value, which is true when the option is named without a value. -/
  | switch
  | integer
  | number
  | span
  deriving DecidableEq, Repr

/-- Whether a text is a value of a kind. -/
def OptionKind.accepts (kind : OptionKind) (text : String) : Bool :=
  match kind with
  | .text => true
  | .switch => (Text.truth? text).isSome
  | .integer => (Text.integer64? text).isSome
  | .number => (Text.number? text).isSome
  | .span => Text.isSpan text

/-- An option. -/
structure OptionForm where
  name : String
  kind : OptionKind
  letter : Option String := none
  required : Bool := false
  deriving DecidableEq, Repr

/-- Whether an option is meant by a word. -/
def OptionForm.isNamed (form : OptionForm) (word : String) : Bool :=
  form.name == word || form.letter == some word

/-- The commands. The first is the program itself; help can be asked for of every other. -/
inductive Verb
  | program
  | gemm
  | attention
  | bundle
  | verify
  | verifyGemm
  | verifyAttention
  | serve
  | tables
  | help (topic : Verb)
  deriving DecidableEq, Repr

/-- The option that asks for help. -/
def helpOption : OptionForm := { name := "help", kind := .switch, letter := some "h" }

/-- The options of the program itself. -/
def programOptions : List OptionForm :=
  [⟨"config", .text, none, false⟩, ⟨"family", .text, none, false⟩, ⟨"mobile", .switch, none, false⟩,
    ⟨"cores", .integer, none, false⟩, ⟨"tuning", .text, none, false⟩, ⟨"log-level", .text, none, false⟩,
    ⟨"log-format", .text, none, false⟩]

/-- The options of a matrix product. -/
def gemmOptions : List OptionForm :=
  (["m", "n", "k"].map fun name => ⟨name, .integer, none, true⟩) ++
    (["batch", "ld-a", "ld-b", "ld-c"].map fun name => ⟨name, .integer, none, false⟩) ++
    (["precision-a", "precision-b", "precision-c", "bias", "bias-precision"].map fun name =>
      ⟨name, .text, none, false⟩) ++
    (["transpose-a", "transpose-b", "load-previous-c"].map fun name => ⟨name, .switch, none, false⟩) ++
    [⟨"beta", .number, none, false⟩]

/-- The options of an attention problem. -/
def attentionOptions : List OptionForm :=
  (["row", "column", "head"].map fun name => ⟨name, .integer, none, true⟩) ++
    (["low-precision-inputs", "low-precision-intermediates", "low-precision-outputs", "aggressive",
      "transpose-q", "transpose-k", "transpose-v", "transpose-o"].map fun name => ⟨name, .switch, none, false⟩)

/-- The option that names the file for the result. -/
def outputOption : OptionForm := { name := "output", kind := .text, letter := some "o" }

/-- The option that names the file for what is told about a kernel. -/
def metadataOption : OptionForm := { name := "metadata", kind := .text }

/-- The options of a comparison with the reference. -/
def verifyOptions : List OptionForm :=
  [⟨"seed", .integer, none, false⟩, ⟨"tolerance", .number, none, false⟩]

namespace Verb

/-- The options of a command itself. -/
def options : Verb → List OptionForm
  | program => programOptions ++ [helpOption]
  | gemm => gemmOptions ++ [outputOption, metadataOption, helpOption]
  | attention =>
    attentionOptions ++
      [⟨"pass", .text, none, false⟩, ⟨"secondary", .switch, none, false⟩, outputOption, metadataOption, helpOption]
  | bundle => [outputOption, ⟨"jobs", .integer, some "j", false⟩, helpOption]
  | verify => [helpOption]
  | verifyGemm => gemmOptions ++ verifyOptions ++ [helpOption]
  | verifyAttention => attentionOptions ++ verifyOptions ++ [helpOption]
  | serve => [⟨"addr", .text, none, false⟩, ⟨"read-timeout", .span, none, false⟩, helpOption]
  | tables => [outputOption, helpOption]
  | help _ => []

/-- The option that a word means after a command: one of its own or one of the program. -/
def option? (verb : Verb) (word : String) : Option OptionForm :=
  (verb.options ++ programOptions).find? (·.isNamed word)

/-- The commands below a command. -/
def children : Verb → List (String × Verb)
  | program =>
    [("gemm", gemm), ("attention", attention), ("bundle", bundle), ("verify", verify), ("serve", serve),
      ("tables", tables)]
  | verify => [("gemm", verifyGemm), ("attention", verifyAttention)]
  | _ => []

/-- The command that a word means below a command. Help is below every command but itself. -/
def child? (verb : Verb) (word : String) : Option Verb :=
  match verb with
  | help _ => none
  | _ =>
    if word = "help" || word = "h" then some (help verb)
    else (verb.children.find? (·.1 == word)).map (·.2)

end Verb

end KernelForge.Command
