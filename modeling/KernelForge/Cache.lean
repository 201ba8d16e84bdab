import KernelForge.Log
import KernelForge.Shader.Program

/-!
The memory of generated programs. A program is generated once for a descriptor and then found again. Callers
that miss a descriptor share one generation as long as it is under way, told apart by the text of its key; a
caller may leave early, and the generation is finished all the same. A generation that fails is reported to
all who wait and not kept, so that a later caller tries again.

The memory is a value and every event is a function on it, so that any order of events can be looked at.
-/

namespace KernelForge

/-- What the events of a memory add up to. -/
structure CacheCounts where
  hits : Nat := 0
  misses : Nat := 0
  failures : Nat := 0
  generated : Nat := 0
  deriving DecidableEq, Repr, Inhabited

/-- The memory: what is kept, in the order of its arrival, and the descriptors whose generation is under way,
    with the texts of their keys. -/
structure Cache (κ : Type) where
  name : String
  stored : List (κ × Shader.Program) := []
  flights : List (String × κ) := []
  counts : CacheCounts := {}

/-- What a caller gets at once: a program, or the word that a generation is under way. -/
inductive Inquiry
  | found (program : Shader.Program)
  | waiting
  deriving DecidableEq, Repr

/-- The end of a generation: what those who wait are given, the memory afterwards, and what is logged. -/
structure Landing (κ : Type) where
  result : Except Failure Shader.Program
  cache : Cache κ
  records : List Log.Record := []

namespace Cache

variable {κ : Type}

/-- A record of what happens to a memory starts with its name. -/
def record (cache : Cache κ) (level : Log.Level) (message : String)
    (attributes : List (String × Log.Content)) : Log.Record :=
  ⟨level, message, ("cache", .text cache.name) :: attributes⟩

variable [DecidableEq κ]

/-- The program that is kept for a descriptor. -/
def lookup? (cache : Cache κ) (key : κ) : Option Shader.Program :=
  (cache.stored.find? (·.1 = key)).map (·.2)

/-- A caller asks for a descriptor. A miss starts a generation unless one with the same text is under way. -/
def inquire (cache : Cache κ) (keyText : κ → String) (key : κ) : Inquiry × Cache κ :=
  match cache.lookup? key with
  | some program => (.found program, { cache with counts := { cache.counts with hits := cache.counts.hits + 1 } })
  | none =>
    let missed := { cache with counts := { cache.counts with misses := cache.counts.misses + 1 } }
    if cache.flights.any (·.1 == keyText key) then (.waiting, missed)
    else (.waiting, { missed with flights := cache.flights ++ [(keyText key, key)] })

/-- The generation of a descriptor ends. One that was kept in the meantime is not generated again. -/
def complete (cache : Cache κ) (keyText : κ → String) (generate : κ → Except Failure Shader.Program)
    (key : κ) : Landing κ :=
  match cache.lookup? key with
  | some program => ⟨.ok program, cache, []⟩
  | none =>
    match generate key with
    | .error failure =>
      ⟨.error (failure.within s!"{cache.name} kernel {keyText key}"),
        { cache with counts := { cache.counts with failures := cache.counts.failures + 1 } },
        [cache.record .warn "generation failed"
          [("key", .text (keyText key)), ("error", .text failure.message)]]⟩
    | .ok program =>
      ⟨.ok program,
        { cache with
          stored := cache.stored ++ [(key, program)]
          counts := { cache.counts with generated := cache.counts.generated + 1 } },
        [cache.record .debug "generated"
          [("key", .text (keyText key)), ("bytes", .integer program.source.utf8ByteSize),
            ("elapsed", .integer 0)]]⟩

/-- The generation with a text ends, if one is under way. -/
def land (cache : Cache κ) (keyText : κ → String) (generate : κ → Except Failure Shader.Program)
    (text : String) : Option (Landing κ) :=
  (cache.flights.find? (·.1 == text)).map fun (_, key) =>
    let landing := cache.complete keyText generate key
    { landing with cache := { landing.cache with flights := landing.cache.flights.filter (·.1 != text) } }

/-- A caller asks and waits, while nobody else does anything. A generation that cannot go on ends the caller
    without a context. -/
def get (cache : Cache κ) (keyText : κ → String) (generate : κ → Except Failure Shader.Program) (key : κ) :
    Landing κ :=
  match cache.inquire keyText key with
  | (.found program, after) => ⟨.ok program, after, []⟩
  | (.waiting, after) =>
    match after.land keyText generate (keyText key) with
    | some landing => landing
    | none => ⟨.error (.plain "no generation under way"), after, []⟩

/-- A caller asks and leaves before a generation ends, which it does afterwards: a program that is kept is
    given all the same. -/
def getAndLeave (cache : Cache κ) (keyText : κ → String) (generate : κ → Except Failure Shader.Program)
    (key : κ) (cause : Failure) : Landing κ :=
  match cache.inquire keyText key with
  | (.found program, after) => ⟨.ok program, after, []⟩
  | (.waiting, after) =>
    match after.land keyText generate (keyText key) with
    | some landing => { landing with result := .error cause }
    | none => ⟨.error cause, after, []⟩

/-- Several callers ask before a generation ends, and all wait for it. -/
def getTogether (cache : Cache κ) (keyText : κ → String) (generate : κ → Except Failure Shader.Program)
    (key : κ) (callers : Nat) : List (Except Failure Shader.Program) × Landing κ :=
  let (answers, after) := (List.range callers).foldl (fun (held : List Inquiry × Cache κ) _ =>
    let (answer, next) := held.2.inquire keyText key
    (held.1 ++ [answer], next)) ([], cache)
  let landing := (after.land keyText generate (keyText key)).getD
    ⟨.error (.plain "no generation under way"), after, []⟩
  (answers.map fun
    | .found program => .ok program
    | .waiting => landing.result, landing)

/-- The number of programs. -/
def size (cache : Cache κ) : Nat :=
  cache.stored.length

/-- The descriptors, in the order of the texts of their keys. -/
def keys (cache : Cache κ) (keyText : κ → String) : List κ :=
  (cache.stored.map (·.1)).mergeSort fun first second => keyText first ≤ keyText second

end Cache

end KernelForge
