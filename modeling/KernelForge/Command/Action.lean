import KernelForge.Bundle
import KernelForge.Command.Configuration
import KernelForge.Verification

/-!
What the commands do. Every command runs in a host and either succeeds or fails; what it logs on the way goes to
the standard error and its results to files or to the standard output.
-/

namespace KernelForge.Command

/-- What a command knows when it starts. -/
structure Context (m : Type → Type) where
  host : Host m
  environment : Environment
  preferences : Preferences
  logger : Log.Logger

variable {m : Type → Type} [Monad m]

/-- Logs records. -/
def Context.log (context : Context m) (records : List Log.Record) : ExceptT Failure m Unit :=
  ExceptT.lift (context.host.report (context.logger.lines records))

/-- Writes a result to a file, or to the standard output when no file is named. -/
def Context.output (context : Context m) (path text : String) : ExceptT Failure m Unit :=
  if path = "" || path = "-" then ExceptT.lift (context.host.print text)
  else ExceptT.mk (context.host.write path text)

/-- The generator for the device that kernels are wanted for. -/
def Context.generator (context : Context m) : ExceptT Failure m Generator := do
  let device ← context.preferences.device context.environment
  let tables ← loadTables context.host context.preferences
  context.log [⟨.debug, "target device",
    [("family", .text device.family.name), ("cores", .integer (tables.cores device).toInt)]⟩]
  return { device, tables }

/-- The matrix product that options describe. Integers are cut to the width of what they stand for. -/
def gemmProblem (settings : Settings) : Except Failure Gemm.Problem := do
  let word (name : String) : UInt32 := (settings.integer name 0).toUInt64.toUInt32
  let a ← Precision.parse (settings.text "precision-a" "fp32")
  let b ← Precision.parse (settings.text "precision-b" "fp32")
  let c ← Precision.parse (settings.text "precision-c" "fp32")
  let axis ← Gemm.BiasAxis.parse (settings.text "bias" "none")
  let biasPrecision := settings.text "bias-precision" ""
  let precision ← if biasPrecision = "" then pure .unset else Precision.parse biasPrecision
  return {
    batch := settings.integer "batch" 1
    extents := ⟨word "m", word "n", word "k"⟩
    memory := ⟨a, b, c⟩
    transpose := ⟨settings.switch "transpose-a", settings.switch "transpose-b"⟩
    leading := ⟨word "ld-a", word "ld-b", word "ld-c"⟩
    loadPreviousC := settings.switch "load-previous-c"
    beta := (settings.number "beta").toFloat32
    bias := ⟨axis, precision⟩ }

/-- The attention problem that options describe. Integers are cut to the width of what they stand for. -/
def attentionProblem (settings : Settings) : Attention.Problem where
  lowInputs := settings.switch "low-precision-inputs"
  lowIntermediates := settings.switch "low-precision-intermediates"
  lowOutputs := settings.switch "low-precision-outputs"
  aggressive := settings.switch "aggressive"
  extents :=
    ⟨(settings.integer "row" 0).toUInt64.toUInt32, (settings.integer "column" 0).toUInt64.toUInt32,
      (settings.integer "head" 0).toUInt64.toUInt16⟩
  transpose :=
    ⟨settings.switch "transpose-q", settings.switch "transpose-k", settings.switch "transpose-v",
      settings.switch "transpose-o"⟩

/-- Ends a generation: logs what it logged and gives what it gave. -/
def Context.finish (context : Context m) (production : Production) : ExceptT Failure m Generated := do
  context.log production.records
  production.result

/-- Writes the source of a kernel and, where it is wanted, what is told about it. -/
def Context.deliver (context : Context m) (settings : Settings) (generated : Generated) :
    ExceptT Failure m Unit := do
  context.output (settings.text "output" "-") generated.program.source
  let path := settings.text "metadata" ""
  if path ≠ "" then
    let metadata ← generated.metadata "" ""
    context.output path (metadata.indented ++ "\n")

/-- Generates the kernel of a matrix product. -/
def gemm (context : Context m) (settings : Settings) : ExceptT Failure m Unit := do
  let problem ← gemmProblem settings
  let generator ← context.generator
  let generated ← context.finish (generator.gemm problem)
  context.log [⟨.info, "generated gemm kernel",
    [("key", .text generated.descriptor.key),
      ("threadgroup_memory", .integer generated.program.threadgroupMemory.toNat),
      ("grid", .integers (generated.grid.map fun count => (count.toNat : Int)))]⟩]
  context.deliver settings generated

/-- The operands that a kernel keeps in registers. -/
def cachedOperands : KernelDescriptor → String
  | .attention descriptor => descriptor.cache.render
  | .gemm _ => ""

/-- Generates an attention kernel. -/
def attention (context : Context m) (settings : Settings) : ExceptT Failure m Unit := do
  let pass ← Attention.Pass.parse (settings.text "pass" "forward")
  let generator ← context.generator
  let generated ← context.finish
    (generator.attention (attentionProblem settings) ⟨pass, settings.switch "secondary"⟩)
  context.log [⟨.info, "generated attention kernel",
    [("key", .text generated.descriptor.key), ("cached", .text (cachedOperands generated.descriptor)),
      ("threadgroups", .integer (generated.grid.headD 0).toNat)]⟩]
  context.deliver settings generated

/-- Generates the kernels of a manifest into an archive. -/
def bundle (context : Context m) (settings : Settings) (words : List String) : ExceptT Failure m Unit := do
  match words with
  | [path] =>
    let text ← ExceptT.mk (context.host.read path)
    let manifest ← Manifest.parse text
    let generator ← context.generator
    let outcome := Bundle.build generator manifest (← ExceptT.lift context.host.identifier)
    context.log outcome.records
    let bundle ← outcome.result
    let archive ← bundle.archive
    context.log [⟨.info, "bundled kernels",
      [("id", .text bundle.identifier), ("kernels", .integer bundle.kernels.length),
        ("distinct", .counts outcome.generator.counts)]⟩]
    context.output (settings.text "output" "-") archive.render
  | _ => throw (.plain "bundle takes exactly one manifest file")

/-- The numbers that a comparison starts from. -/
def seedOf (settings : Settings) : Int64 :=
  settings.integer "seed" 1

/-- The deviation that is allowed: the one that was given, or else the usual one. -/
def toleranceOf (settings : Settings) (usual : Float) : Float :=
  let given := settings.number "tolerance"
  if given == 0 then usual else given

/-- Prints a comparison and fails when it found too much. -/
def Context.verdict (context : Context m) (name : String) (report : Verification.Report) (tolerance : Float) :
    ExceptT Failure m Unit := do
  ExceptT.lift (context.host.print (report.render name tolerance))
  report.check name tolerance

/-- Compares the kernel of a matrix product with the reference. -/
def verifyGemm (context : Context m) (settings : Settings) : ExceptT Failure m Unit := do
  let problem ← gemmProblem settings
  let device ← context.preferences.device context.environment
  let tables ← loadTables context.host context.preferences
  let descriptor ← problem.descriptor device tables
  let seed := seedOf settings
  let report ← Verification.verifyGemm descriptor problem (.ofSeed seed.toUInt64)
  let memory := problem.memory
  let usual := Verification.tolerance (Verification.narrowest [memory.a, memory.b, memory.c])
  context.log [⟨.debug, "verified gemm", [("key", .text descriptor.key), ("seed", .integer seed.toInt)]⟩]
  let extents := problem.extents
  context.verdict s!"gemm {extents.m}x{extents.n}x{extents.k}" report (toleranceOf settings usual)

/-- Compares the attention kernels of a problem with the reference. -/
def verifyAttention (context : Context m) (settings : Settings) : ExceptT Failure m Unit := do
  let problem := attentionProblem settings
  let device ← context.preferences.device context.environment
  let tables ← loadTables context.host context.preferences
  let seed := seedOf settings
  let report ← Verification.verifyAttention problem device tables (.ofSeed seed.toUInt64)
  context.log [⟨.debug, "verified attention", [("seed", .integer seed.toInt)]⟩]
  let extents := problem.extents
  context.verdict s!"attention {extents.row}x{extents.column}x{extents.head}" report
    (toleranceOf settings (Verification.attentionTolerance problem))

/-- Answers requests. -/
def serve (context : Context m) : ExceptT Failure m Unit := do
  let generator ← context.generator
  let address := context.preferences.serverAddress
  context.log [⟨.info, "starting server",
    [("address", .text address), ("family", .text generator.device.family.name)]⟩]
  ExceptT.mk (context.host.serve address generator)

/-- Prints the tuning tables. -/
def tables (context : Context m) (settings : Settings) : ExceptT Failure m Unit := do
  let tables ← loadTables context.host context.preferences
  context.output (settings.text "output" "-") tables.render

/-- How a run of the program ends: with an explanation of its use, or with the result of a command. -/
inductive Outcome
  | usage (failed : Bool)
  | finished (result : Except Failure Unit)

/-- An explanation of a command, perhaps of one below it; it fails when there is none of that name. -/
def explanation (topic : Verb) (words : List String) : Outcome :=
  .usage (match words with
    | [] => false
    | word :: _ => (topic.child? word).isNone)

/-- Makes everything ready that a command needs to know. -/
def prepare (host : Host m) (environment : Environment) (settings : Settings) :
    ExceptT Failure m (Context m) := do
  let configuration ← loadConfiguration host environment settings
  let preferences := Preferences.of settings environment configuration
  let threshold ← Log.Level.parse preferences.logLevel
  let style ← Log.Style.parse preferences.logFormat
  return { host, environment, preferences, logger := { style, threshold } }

/-- Runs a command whose options are complete. -/
def perform (context : Context m) (invocation : Invocation) : m Outcome :=
  let settings := invocation.settings
  let finished (action : ExceptT Failure m Unit) : m Outcome := do return .finished (← action.run)
  match invocation.verb with
  | .program => return .usage false
  | .verify => return explanation .verify invocation.words
  | .help topic => return explanation topic invocation.words
  | .gemm => finished (gemm context settings)
  | .attention => finished (attention context settings)
  | .bundle => finished (bundle context settings invocation.words)
  | .verifyGemm => finished (verifyGemm context settings)
  | .verifyAttention => finished (verifyAttention context settings)
  | .serve => finished (serve context)
  | .tables => finished (tables context settings)

/-- Runs the program. -/
def run (host : Host m) (environment : Environment) (arguments : List String) : m Outcome := do
  match Request.parse arguments with
  | .misused => return .usage true
  | .helpWanted verb words => return explanation verb words
  | .invoked invocation =>
    match ← (prepare host environment invocation.settings).run with
    | .error failure => return .finished (.error failure)
    | .ok context =>
      if invocation.missing.isEmpty then perform context invocation else return .usage true

end KernelForge.Command
