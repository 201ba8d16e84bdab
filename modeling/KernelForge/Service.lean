import KernelForge.Generator
import KernelForge.Json.Reading

/-!
The generation of kernels as a service. A request has a method, a path and a body; its answer is a function of
the request and of the generator, which the service keeps between requests. Bodies are JSON, except for the
counters, which are lines of text.
-/

namespace KernelForge.Service

/-- A request. -/
structure Request where
  method : String
  /-- The path, which may be followed by a question mark and parameters. -/
  target : String
  body : String := ""
  deriving DecidableEq, Repr

/-- What an answer carries. -/
inductive Body
  | empty
  | json (value : Json.Value)
  | lines (lines : List String)

/-- An answer: its status and what it carries. -/
structure Response where
  status : Nat
  body : Body := .empty

/-- What makes an answer unique: a fresh identifier and the time in seconds. -/
structure Stamp where
  identifier : String
  seconds : Int
  deriving DecidableEq, Repr

/-- The service after a request: the answer, the generator and what is logged. -/
structure Reply where
  response : Response
  generator : Generator
  records : List Log.Record := []

/-- The answer to a request that failed. The code is left out when it is empty. -/
def refusal (status : Nat) (type message code : String) : Response :=
  ⟨status, .json (.object [("error", .object (
    [("message", .text message), ("type", .text type)] ++ Json.textUnlessEmpty "code" code))])⟩

/-- The answer to a request that cannot be understood. -/
def badRequest (message : String) : Response :=
  refusal 400 "invalid_request_error" message ""

/-- The code of a failure that lies in the descriptor or the device. -/
def descriptorCode? : FailureKind → Option String
  | .descriptorIncomplete => some "descriptor_incomplete"
  | .invalidPrecisionPair => some "invalid_precision_pair"
  | .threadgroupMemoryExceeded => some "threadgroup_memory_exceeded"
  | .unsupportedDevice => some "unsupported_device"
  | .invalidDescriptor => some "invalid_descriptor"
  | _ => none

/-- The answer to a generation that failed, and what is logged of it. -/
def generationRefusal (kind : KernelKind) (failure : Failure) : Response × List Log.Record :=
  match descriptorCode? failure.kind with
  | some code => (refusal 422 "invalid_request_error" failure.message code, [])
  | none =>
    if failure.kind = .canceled then (refusal 503 "server_error" failure.message "canceled", [])
    else (refusal 500 "server_error" failure.message "",
      [⟨.error, "kernel generation failed", [("kind", .text kind.name), ("error", .text failure.message)]⟩])

/-- A program as JSON. -/
def programJson (program : Shader.Program) : Json.Value :=
  .object [("entry_point", .text program.entryPoint), ("source", .text program.source),
    ("threadgroup_memory", .natural program.threadgroupMemory.toNat),
    ("threadgroup_size", .natural program.threadgroupSize.toNat),
    ("constants", .list (program.constants.map Shader.FunctionConstant.json))]

/-- A generated kernel as JSON. -/
def kernelJson (stamp : Stamp) (generated : Generated) : Except Failure Json.Value := do
  let bindings ← generated.bindingsJson .strict
  let kernel ← generated.descriptor.json .strict
  return .object [("id", .text ("kernel-" ++ stamp.identifier)), ("object", .text "kernel"),
    ("kind", .text generated.descriptor.kind.name), ("created", .integer stamp.seconds),
    ("cache_key", .text generated.descriptor.key), ("program", programJson generated.program),
    ("function_constants", bindings), ("grid", generated.gridJson), ("kernel", kernel)]

/-- The answer when something cannot be written as JSON. -/
def internalError : Response :=
  ⟨500, .json (.object [("message", .text "Internal Server Error")])⟩

/-- Generates the kernel of a task. -/
def produce (generator : Generator) (stamp : Stamp) (kind : KernelKind) (task : Task) : Reply :=
  let production := generator.generate task
  match production.result with
  | .error failure =>
    let (response, records) := generationRefusal kind failure
    ⟨response, production.generator, production.records ++ records⟩
  | .ok generated =>
    let response :=
      match kernelJson stamp generated with
      | .ok value => ⟨200, .json value⟩
      | .error _ => internalError
    ⟨response, production.generator, production.records⟩

/-- Generates the kernel of a matrix product. -/
def gemm (generator : Generator) (stamp : Stamp) (body : String) : Reply :=
  match Json.readFirstOnto (Gemm.Problem.read (Json.format .request)) body default with
  | .error failure => ⟨badRequest failure.message, generator, []⟩
  | .ok problem => produce generator stamp .gemm (.gemm problem)

/-- A request for an attention kernel: the problem as it is written, which is read later, and the type of the
    kernel. -/
structure AttentionRequest where
  problem : List UInt8 := []
  type : Attention.KernelType := default

/-- Reads a request for an attention kernel. -/
def AttentionRequest.read : Unit → AttentionRequest → Json.Reading AttentionRequest :=
  let format := Json.format .request
  format.record
    [⟨"descriptor", fun _ request => do return { request with problem := ← Json.readRaw .request }⟩,
      .of "type" (·.type) (fun request value => { request with type := value })
        (Attention.KernelType.read format)]

/-- What an attention kernel is asked for; the first defect counts. -/
def attentionTask (body : String) : Except Failure Task := do
  let request ← Json.readFirstOnto AttentionRequest.read body {}
  if request.problem.isEmpty then .error (.plain "descriptor is required")
  else if !request.type.pass.isValid then
    .error (.plain "type.pass must be one of forward, backward-query, backward-key-value")
  else return .attention (← Attention.Problem.ofBytes request.problem) request.type

/-- Generates an attention kernel. -/
def attention (generator : Generator) (stamp : Stamp) (body : String) : Reply :=
  match attentionTask body with
  | .error failure => ⟨badRequest failure.message, generator, []⟩
  | .ok task => produce generator stamp .attention task

/-- The list of the remembered programs. -/
def kernels (generator : Generator) : Response :=
  let entry (kernel : CachedKernel) : Json.Value :=
    .object [("kind", .text kernel.kind.name), ("cache_key", .text kernel.key),
      ("entry_point", .text kernel.program.entryPoint),
      ("threadgroup_memory", .natural kernel.program.threadgroupMemory.toNat),
      ("threadgroup_size", .natural kernel.program.threadgroupSize.toNat)]
  ⟨200, .json (.object [("object", .text "list"), ("data", .list (generator.cached.map entry))])⟩

/-- The state of the service. -/
def health (generator : Generator) : Response :=
  ⟨200, .json (.object [("status", .text "ok"), ("device", generator.device.json),
    ("kernels", .object (generator.counts.map fun (name, count) => (name, .natural count)))])⟩

/-- What can be asked for. -/
inductive Resource
  | gemm
  | attention
  | kernels
  | health
  | metrics
  deriving DecidableEq, Repr

namespace Resource

/-- The resource at a path. -/
def ofPath? : String → Option Resource
  | "/v1/kernels/gemm" => some gemm
  | "/v1/kernels/attention" => some attention
  | "/v1/kernels" => some kernels
  | "/healthz" => some health
  | "/metrics" => some metrics
  | _ => none

/-- The method by which a resource is asked for. -/
def method : Resource → String
  | gemm | attention => "POST"
  | kernels | health | metrics => "GET"

end Resource

/-- The path of a target, without parameters. -/
def path (target : String) : String :=
  String.ofList (target.toList.takeWhile (· != '?'))

/-- Answers a request. Every resource can be asked for its options. -/
def respond (generator : Generator) (stamp : Stamp) (request : Request) : Reply :=
  match Resource.ofPath? (path request.target) with
  | none => ⟨⟨404, .empty⟩, generator, []⟩
  | some resource =>
    if request.method = "OPTIONS" then ⟨⟨204, .empty⟩, generator, []⟩
    else if request.method ≠ resource.method then ⟨⟨405, .empty⟩, generator, []⟩
    else
      match resource with
      | .gemm => gemm generator stamp request.body
      | .attention => attention generator stamp request.body
      | .kernels => ⟨kernels generator, generator, []⟩
      | .health => ⟨health generator, generator, []⟩
      | .metrics => ⟨⟨200, .lines generator.metrics⟩, generator, []⟩

end KernelForge.Service
