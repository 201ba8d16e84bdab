import KernelForge.Attention.Document
import KernelForge.Gemm.Document
import KernelForge.Generator
import KernelForge.Text.Quoted
import KernelForge.Yaml.Reading

/-!
Lists of kernels to be generated together. An entry has a name and either a matrix product or an attention
problem with the types of the kernels wanted for it; without types those of a training step are meant. Each
kernel goes to a file of its own.
-/

namespace KernelForge

/-- An attention problem and the kernels wanted for it. -/
structure Manifest.AttentionEntry where
  problem : Attention.Problem := default
  types : List Attention.KernelType := []
  deriving Inhabited

/-- A named problem. -/
structure Manifest.Entry where
  name : String := ""
  gemm : Option Gemm.Problem := none
  attention : Option Manifest.AttentionEntry := none
  deriving Inhabited

/-- A list of named problems. -/
structure Manifest where
  kernels : List Manifest.Entry := []
  deriving Inhabited

/-- One kernel of a manifest: the name of its entry, its file and its task. -/
structure Manifest.Job where
  name : String
  file : String
  task : Task

namespace Manifest

open Yaml (Node Reading)

/-- Reads an attention problem and the kernels wanted for it. -/
def AttentionEntry.read : Node → AttentionEntry → Reading AttentionEntry :=
  let format := Yaml.format true
  format.record
    [.of "descriptor" (·.problem) (fun entry value => { entry with problem := value })
        (Attention.Problem.read format),
      .of "types" (·.types) (fun entry value => { entry with types := value })
        (Yaml.readList (Yaml.readItem (Attention.KernelType.read format) default))]

/-- Reads an entry. -/
def Entry.read : Node → Entry → Reading Entry :=
  let format := Yaml.format true
  format.record
    [.of "name" (·.name) (fun entry value => { entry with name := value }) format.text,
      .of "gemm" (·.gemm) (fun entry value => { entry with gemm := value })
        (Yaml.readOptional (Gemm.Problem.read format) default),
      .of "attention" (·.attention) (fun entry value => { entry with attention := value })
        (Yaml.readOptional AttentionEntry.read default)]

/-- Reads a manifest. -/
def read : Node → Manifest → Reading Manifest :=
  (Yaml.format true).record
    [.of "kernels" (·.kernels) (fun manifest value => { manifest with kernels := value })
      (Yaml.readList (Yaml.readItem Entry.read default))]

/-- Reads a manifest from text, which has to hold a document and at least one kernel. -/
def parse (text : String) : Except Failure Manifest := do
  let manifest? ← (Yaml.read? read text default).mapError (Failure.within context)
  let some manifest := manifest? | .error ((Failure.plain "EOF").within context)
  if manifest.kernels.isEmpty then .error (.plain "manifest lists no kernels")
  else return manifest
where
  /-- What a failure of reading happens within. -/
  context : String := "parsing manifest"

/-- The types of the kernels of a training step. -/
def trainingTypes : List Attention.KernelType :=
  Attention.Pass.all.map fun pass => ⟨pass, true⟩

/-- The file of an attention kernel. -/
def attentionFile (name : String) (type : Attention.KernelType) : String :=
  s!"{name}.{type.pass.name}" ++ (if type.secondary then "" else "-primary") ++ ".metal"

/-- Whether a name can be the start of the name of a file. -/
def isFileName (name : String) : Bool :=
  !name.isEmpty && name.toList.all fun character => character != '/' && character != '\\' && character != ' '

/-- The kernels of the entry with a number. -/
def Entry.jobs (entry : Entry) (index : Nat) : Except Failure (List Job) :=
  if !isFileName entry.name then .error (.plain s!"kernel {index}: invalid name {Text.quote entry.name}")
  else
    match entry.gemm, entry.attention with
    | some problem, none => .ok [⟨entry.name, entry.name ++ ".metal", .gemm problem⟩]
    | none, some attention =>
      let types := if attention.types.isEmpty then trainingTypes else attention.types
      .ok (types.map fun type =>
        ⟨entry.name, attentionFile entry.name type, .attention attention.problem type⟩)
    | _, _ =>
      .error (.plain s!"kernel {Text.quote entry.name}: exactly one of gemm and attention is required")

/-- The words that stand in a list more than once, each one time, in the order of their first places. -/
def duplicates : List String → List String
  | [] => []
  | word :: rest =>
    if rest.contains word then word :: (duplicates rest).filter (· != word) else duplicates rest

/-- The kernels of a manifest, which have to go to different files. -/
def jobs (manifest : Manifest) : Except Failure (List Job) := do
  let jobs := (← manifest.kernels.zipIdx.mapM fun (entry, index) => entry.jobs index).flatten
  match duplicates (jobs.map (·.file)) with
  | [] => return jobs
  | files => .error (.plain ("duplicate kernel files [" ++ " ".intercalate files ++ "]"))

end Manifest

end KernelForge
