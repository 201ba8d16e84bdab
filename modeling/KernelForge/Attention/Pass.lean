import KernelForge.Attention.Operand

/-!
The three passes of attention. The forward pass works on rows and gives the output and, if asked, the
logarithm of the row sums. The backward pass is in two parts that compute the attention matrix again: one on
rows for the derivative of the queries, one on columns for those of the keys and values.
-/

namespace KernelForge.Attention

/-- The code of a pass; three codes are passes. -/
structure Pass where
  code : UInt8
  deriving DecidableEq, Repr

namespace Pass

/-- No pass. -/
abbrev unset : Pass := ⟨0⟩

/-- Output rows. -/
abbrev forward : Pass := ⟨1⟩

/-- Derivative of the queries, by rows. -/
abbrev backwardQuery : Pass := ⟨2⟩

/-- Derivatives of keys and values, by columns. -/
abbrev backwardKeyValue : Pass := ⟨3⟩

instance : Inhabited Pass := ⟨unset⟩

/-- The passes in the order in which they run. -/
def all : List Pass := [forward, backwardQuery, backwardKeyValue]

/-- Whether the code is a pass. -/
def isValid (pass : Pass) : Bool :=
  1 ≤ pass.code && pass.code ≤ 3

/-- The name of a pass. -/
def name (pass : Pass) : String :=
  if pass = forward then "forward"
  else if pass = backwardQuery then "backward-query"
  else if pass = backwardKeyValue then "backward-key-value"
  else "unset"

/-- The pass with a name, whatever the case and the blanks around it. -/
def parse (text : String) : Except Failure Pass :=
  match Text.lower (Text.trim text) with
  | "forward" | "fwd" => .ok forward
  | "backward-query" | "backward_query" | "bwdq" => .ok backwardQuery
  | "backward-key-value" | "backward_key_value" | "bwdkv" => .ok backwardKeyValue
  | _ => .error (.of .invalidDescriptor s!"unknown attention pass {Text.quote text}")

/-- The name in a document. Only a pass has one. -/
def documentName (pass : Pass) : Except Failure String :=
  if pass.isValid then .ok pass.name
  else .error (.of .invalidDescriptor s!"attention pass {pass.code}")

/-- The operands that a pass may keep in registers all the way. -/
def cacheable (pass : Pass) : OperandSet :=
  if pass = forward then .ofList [.q, .o]
  else if pass = backwardQuery then .ofList [.q, .dO, .dQ]
  else if pass = backwardKeyValue then .ofList [.k, .v, .dV, .dK]
  else .empty

end Pass

/-- A pass and whether it has its second result: the logarithms of the row sums, the derivative of the
    queries, or the derivative of the keys. -/
structure KernelType where
  pass : Pass := .unset
  secondary : Bool := false
  deriving DecidableEq, Repr, Inhabited

namespace KernelType

/-- The operands that are bound to buffers. -/
def operands (type : KernelType) : OperandSet :=
  if type.pass = .forward then
    if type.secondary then .ofList [.q, .k, .v, .o, .l] else .ofList [.q, .k, .v, .o]
  else if type.pass = .backwardQuery then
    if type.secondary then .ofList [.q, .k, .v, .o, .l, .dO, .d, .dQ] else .ofList [.o, .dO, .d]
  else if type.pass = .backwardKeyValue then
    .ofList [.q, .k, .v, .l, .dO, .d, .dV, if type.secondary then .dK else .dST]
  else .empty

/-- The parts of the attention matrix that are computed in registers. -/
def registers (type : KernelType) : OperandSet :=
  if type.pass = .forward then .ofList [.s, .p]
  else if type.pass = .backwardQuery && !type.secondary then .empty
  else .ofList [.s, .p, .dP, .dS]

/-- The results that are sums over the traversal. -/
def accumulators (type : KernelType) : OperandSet :=
  if type.pass = .forward then .ofList [.o]
  else if type.pass = .backwardQuery && type.secondary then .ofList [.dQ]
  else if type.pass = .backwardKeyValue then .ofList (if type.secondary then [.dV, .dK] else [.dV])
  else .empty

/-- The operands that are written. -/
def results (type : KernelType) : List Operand :=
  if type.pass = .forward then .o :: if type.secondary then [.l] else []
  else if type.pass = .backwardQuery then .d :: if type.secondary then [.dQ] else []
  else if type.pass = .backwardKeyValue then [.dV, if type.secondary then .dK else .dST]
  else []

/-- Whether the attention matrix is traversed at all. -/
def hasLoop (type : KernelType) : Bool :=
  type.pass ≠ .backwardQuery || type.secondary

/-- The name of a kernel type. -/
def name (type : KernelType) : String :=
  type.pass.name ++
    (if type.pass = .forward then if type.secondary then "+L" else ""
    else if type.pass = .backwardQuery then if type.secondary then "+dQ" else ""
    else if type.pass = .backwardKeyValue then if type.secondary then "+dK" else "+dST"
    else "")

end KernelType

end KernelForge.Attention
