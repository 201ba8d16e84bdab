import KernelForge.Archive
import KernelForge.Manifest

/-!
All kernels of a manifest in one archive: a file for each kernel and an index that describes them.
-/

namespace KernelForge

/-- A kernel of a bundle: the name of its entry, its file and what was generated. -/
structure Bundle.Entry where
  name : String
  file : String
  generated : Generated

/-- The kernels of a manifest, in its order. -/
structure Bundle where
  identifier : String
  device : Device
  kernels : List Bundle.Entry

namespace Bundle

/-- The name of the index in an archive. -/
def indexFile : String := "manifest.json"

/-- The end of the making of a bundle: its result, the generator afterwards, and what is logged. -/
structure Outcome (α : Type) where
  result : Except Failure α
  generator : Generator
  records : List Log.Record := []

/-- Generates kernels one after the other. The first that fails ends it; its file is named. -/
def generateAll (generator : Generator) : List Manifest.Job → Outcome (List Entry)
  | [] => ⟨.ok [], generator, []⟩
  | job :: rest =>
    let production := generator.generate job.task
    match production.result with
    | .error failure => ⟨.error (failure.within job.file), production.generator, production.records⟩
    | .ok generated =>
      let later := generateAll production.generator rest
      ⟨later.result.map (⟨job.name, job.file, generated⟩ :: ·), later.generator,
        production.records ++ later.records⟩

/-- Makes the bundle of a manifest under a fresh identifier. -/
def build (generator : Generator) (manifest : Manifest) (identifier : String) : Outcome Bundle :=
  match manifest.jobs with
  | .error failure => ⟨.error failure, generator, []⟩
  | .ok jobs =>
    let outcome := generateAll generator jobs
    ⟨outcome.result.map fun entries => ⟨identifier, generator.device, entries⟩, outcome.generator,
      outcome.records⟩

/-- The index of a bundle. -/
def index (bundle : Bundle) : Except Failure Json.Value := do
  let kernels ← bundle.kernels.mapM fun entry => entry.generated.metadata entry.name entry.file
  return .object [("id", .text bundle.identifier), ("device", bundle.device.json), ("kernels", .list kernels)]

/-- The archive of a bundle. -/
def archive (bundle : Bundle) : Except Failure Archive := do
  let index ← bundle.index
  return {
    comment := s!"mfagen bundle {bundle.identifier} for {bundle.device.family.name}\n"
    members := bundle.kernels.map (fun entry => ⟨entry.file, entry.generated.program.source⟩) ++
      [⟨indexFile, index.indented ++ "\n"⟩] }

end Bundle

end KernelForge
