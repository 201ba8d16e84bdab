import Mathlib.Logic.Function.Basic
import Mathlib.Logic.Relation
import KernelForge.Cache

/-!
The memory of programs under many callers at once. A caller looks for its descriptor, then joins the generation with
the text of its key or starts one, then waits; it may leave as long as it waits, also when its answer is there
already. A generation looks once more, generates, stores and hands over. Each of these is a step of its own, so that
anything may happen between any two of them. What is taken from the outside is that there is one generation with a
text at a time, and that its result goes to everyone who joined it.

The operations of the memory that do several steps at once are runs in which nobody else moves.
-/

namespace KernelForge.Cache

/-- How far a generation has come. -/
inductive Stage
  /-- It has not looked for its descriptor yet. -/
  | started
  /-- Its descriptor was not there. -/
  | missed
  /-- It has a program that is not stored yet. -/
  | generated (program : Shader.Program)
  /-- It has a result to hand over. -/
  | ended (result : Except Failure Shader.Program)

/-- What has become of a caller. -/
inductive Standing
  /-- Its descriptor was not there. -/
  | missed
  /-- It has joined the generation with its text. -/
  | waiting
  /-- The result of that generation lies ready for it. -/
  | served (result : Except Failure Shader.Program)
  /-- It has returned. -/
  | answered (result : Except Failure Shader.Program)
  /-- It only looked, and has returned. -/
  | looked (found : Option Shader.Program)

/-- Someone who asked for a descriptor. -/
structure Caller (κ : Type) where
  key : κ
  standing : Standing

/-- A memory, how far its generations have come, everyone who has asked so far, and the descriptors whose generation
    succeeded, in that order. -/
structure Traffic (κ : Type) where
  cache : Cache κ
  stage : String → Stage := fun _ => .started
  callers : List (Caller κ) := []
  generated : List κ := []

variable {κ : Type}

/-- A caller who waits for a text is served. -/
def Caller.serve (caller : Caller κ) (keyText : κ → String) (text : String)
    (result : Except Failure Shader.Program) : Caller κ :=
  match caller.standing with
  | .waiting => if keyText caller.key = text then { caller with standing := .served result } else caller
  | _ => caller

/-- The caller with a number has a new standing. -/
def Traffic.turn (traffic : Traffic κ) (index : Nat) (key : κ) (standing : Standing) : Traffic κ :=
  { traffic with callers := traffic.callers.set index ⟨key, standing⟩ }

/-- The generation with a text is at a new stage. -/
def Traffic.move (traffic : Traffic κ) (text : String) (stage : Stage) : Traffic κ :=
  { traffic with stage := Function.update traffic.stage text stage }

variable [DecidableEq κ]

/-- A program is assigned to a descriptor, whatever was assigned to it before. -/
def assign (cache : Cache κ) (key : κ) (program : Shader.Program) : Cache κ :=
  { cache with
    stored :=
      if cache.lookup? key = none then cache.stored ++ [(key, program)]
      else cache.stored.map fun entry => if entry.1 = key then (key, program) else entry }

/-- One step of a caller or of a generation. -/
inductive Step (keyText : κ → String) (generate : κ → Except Failure Shader.Program) :
    Traffic κ → Traffic κ → Prop
  /-- Someone looks without asking for a generation. -/
  | look (traffic : Traffic κ) (key : κ) :
    Step keyText generate traffic
      { traffic with callers := traffic.callers ++ [⟨key, .looked (traffic.cache.lookup? key)⟩] }
  /-- A caller finds its program. -/
  | hit (traffic : Traffic κ) (key : κ) (program : Shader.Program) (found : traffic.cache.lookup? key = some program) :
    Step keyText generate traffic
      { traffic with
        cache := { traffic.cache with counts.hits := traffic.cache.counts.hits + 1 }
        callers := traffic.callers ++ [⟨key, .answered (.ok program)⟩] }
  /-- A caller does not find its program. -/
  | miss (traffic : Traffic κ) (key : κ) (absent : traffic.cache.lookup? key = none) :
    Step keyText generate traffic
      { traffic with
        cache := { traffic.cache with counts.misses := traffic.cache.counts.misses + 1 }
        callers := traffic.callers ++ [⟨key, .missed⟩] }
  /-- A caller joins the generation with its text. -/
  | join (traffic : Traffic κ) (index : Nat) (key : κ) (asks : traffic.callers[index]? = some ⟨key, .missed⟩)
      (present : ∃ flight ∈ traffic.cache.flights, flight.1 = keyText key) :
    Step keyText generate traffic (traffic.turn index key .waiting)
  /-- A caller starts a generation, as there is none with its text. -/
  | start (traffic : Traffic κ) (index : Nat) (key : κ) (asks : traffic.callers[index]? = some ⟨key, .missed⟩)
      (absent : ∀ flight ∈ traffic.cache.flights, flight.1 ≠ keyText key) :
    Step keyText generate traffic
      { (traffic.turn index key .waiting).move (keyText key) .started with
        cache := { traffic.cache with flights := traffic.cache.flights ++ [(keyText key, key)] } }
  /-- A caller leaves before it has its answer. -/
  | leave (traffic : Traffic κ) (index : Nat) (key : κ) (cause : Failure)
      (waits : traffic.callers[index]? = some ⟨key, .waiting⟩ ∨
        ∃ result, traffic.callers[index]? = some ⟨key, .served result⟩) :
    Step keyText generate traffic (traffic.turn index key (.answered (.error cause)))
  /-- A caller takes the answer that lies ready. -/
  | receive (traffic : Traffic κ) (index : Nat) (key : κ) (result : Except Failure Shader.Program)
      (ready : traffic.callers[index]? = some ⟨key, .served result⟩) :
    Step keyText generate traffic (traffic.turn index key (.answered result))
  /-- A generation finds that its descriptor was stored in the meantime. -/
  | refind (traffic : Traffic κ) (text : String) (key : κ) (program : Shader.Program)
      (flies : (text, key) ∈ traffic.cache.flights) (stage : traffic.stage text = .started)
      (found : traffic.cache.lookup? key = some program) :
    Step keyText generate traffic (traffic.move text (.ended (.ok program)))
  /-- A generation does not find its descriptor. -/
  | confirm (traffic : Traffic κ) (text : String) (key : κ) (flies : (text, key) ∈ traffic.cache.flights)
      (stage : traffic.stage text = .started) (absent : traffic.cache.lookup? key = none) :
    Step keyText generate traffic (traffic.move text .missed)
  /-- A generation fails. -/
  | fail (traffic : Traffic κ) (text : String) (key : κ) (failure : Failure)
      (flies : (text, key) ∈ traffic.cache.flights) (stage : traffic.stage text = .missed)
      (fails : generate key = .error failure) :
    Step keyText generate traffic
      { traffic.move text (.ended (.error (failure.within s!"{traffic.cache.name} kernel {keyText key}"))) with
        cache := { traffic.cache with counts.failures := traffic.cache.counts.failures + 1 } }
  /-- A generation succeeds. -/
  | succeed (traffic : Traffic κ) (text : String) (key : κ) (program : Shader.Program)
      (flies : (text, key) ∈ traffic.cache.flights) (stage : traffic.stage text = .missed)
      (succeeds : generate key = .ok program) :
    Step keyText generate traffic
      { traffic.move text (.generated program) with
        cache := { traffic.cache with counts.generated := traffic.cache.counts.generated + 1 }
        generated := traffic.generated ++ [key] }
  /-- A generation stores its program. -/
  | store (traffic : Traffic κ) (text : String) (key : κ) (program : Shader.Program)
      (flies : (text, key) ∈ traffic.cache.flights) (stage : traffic.stage text = .generated program) :
    Step keyText generate traffic
      { traffic.move text (.ended (.ok program)) with cache := traffic.cache.assign key program }
  /-- A generation ends, and everyone who joined it is served. -/
  | land (traffic : Traffic κ) (text : String) (key : κ) (result : Except Failure Shader.Program)
      (flies : (text, key) ∈ traffic.cache.flights) (stage : traffic.stage text = .ended result) :
    Step keyText generate traffic
      { traffic with
        cache := { traffic.cache with flights := traffic.cache.flights.filter (·.1 != text) }
        callers := traffic.callers.map fun caller => caller.serve keyText text result }

/-- Any number of steps. -/
abbrev Run (keyText : κ → String) (generate : κ → Except Failure Shader.Program) :
    Traffic κ → Traffic κ → Prop :=
  Relation.ReflTransGen (Step keyText generate)

/-- What can come about from an empty memory. -/
def Reachable (keyText : κ → String) (generate : κ → Except Failure Shader.Program) (traffic : Traffic κ) : Prop :=
  ∃ name, Run keyText generate ⟨⟨name, [], [], {}⟩, fun _ => .started, [], []⟩ traffic

variable {keyText : κ → String} {generate : κ → Except Failure Shader.Program} {traffic : Traffic κ}

/-- A caller that asks while nobody else moves finds its program, or joins or starts a generation. -/
theorem run_inquire (keyText : κ → String) (generate : κ → Except Failure Shader.Program) (traffic : Traffic κ)
    (key : κ) :
    ∃ after, Run keyText generate traffic after ∧ after.cache = (traffic.cache.inquire keyText key).2 ∧
      after.callers = traffic.callers ++ [⟨key,
        match (traffic.cache.inquire keyText key).1 with
        | .found program => .answered (.ok program)
        | .waiting => .waiting⟩] ∧
      ∀ text, traffic.stage text = .started → after.stage text = .started := by
  unfold inquire
  cases found : traffic.cache.lookup? key with
  | some program => exact ⟨_, .single (.hit traffic key program found), rfl, rfl, fun _ started => started⟩
  | none =>
    have missed : Step keyText generate traffic _ := .miss traffic key found
    cases present : traffic.cache.flights.any (·.1 == keyText key) with
    | true =>
      have joined : ∃ flight ∈ traffic.cache.flights, flight.1 = keyText key := by simpa using present
      refine ⟨_, .tail (.single missed) (.join _ traffic.callers.length key (by simp) joined), ?_⟩
      simp [Traffic.turn]
    | false =>
      have alone : ∀ flight ∈ traffic.cache.flights, flight.1 ≠ keyText key := by
        intro flight member same
        simp only [List.any_eq_false, beq_iff_eq] at present
        exact present flight member same
      refine ⟨_, .tail (.single missed) (.start _ traffic.callers.length key (by simp) alone), ?_⟩
      refine ⟨by simp, by simp [Traffic.turn, Traffic.move], ?_⟩
      intro text started
      by_cases same : text = keyText key
      · simp [Traffic.move, same]
      · simpa [Traffic.move, Traffic.turn, same] using started

/-- A generation that goes on while nobody else moves has the result that the memory computes at once. -/
theorem run_complete {text : String} {key : κ} (flies : (text, key) ∈ traffic.cache.flights)
    (started : traffic.stage text = .started) :
    ∃ after, Run keyText generate traffic after ∧ after.cache = (traffic.cache.complete keyText generate key).cache ∧
      after.stage text = .ended (traffic.cache.complete keyText generate key).result ∧
      after.callers = traffic.callers := by
  cases found : traffic.cache.lookup? key with
  | some program =>
    refine ⟨_, .single (.refind traffic text key program flies started found), ?_⟩
    simp [complete, found, Traffic.move]
  | none =>
    have confirmed : Step keyText generate traffic _ := .confirm traffic text key flies started found
    cases made : generate key with
    | error failure =>
      refine ⟨_, .tail (.single confirmed) (.fail _ text key failure flies (by simp [Traffic.move]) made), ?_⟩
      simp [complete, found, made, Traffic.move]
    | ok program =>
      refine ⟨_, .tail (.tail (.single confirmed) (.succeed _ text key program flies (by simp [Traffic.move]) made))
        (.store _ text key program flies (by simp [Traffic.move])), ?_⟩
      have absent : ∀ counts, ({ traffic.cache with counts } : Cache κ).lookup? key = none := fun _ => found
      simp [complete, found, made, Traffic.move, assign, absent]

/-- Its landing hands that result to everyone who joined it. -/
theorem run_land {text : String} {landing : Landing κ} (started : traffic.stage text = .started)
    (lands : traffic.cache.land keyText generate text = some landing) :
    ∃ after, Run keyText generate traffic after ∧ after.cache = landing.cache ∧
      after.callers = traffic.callers.map fun caller => caller.serve keyText text landing.result := by
  unfold land at lands
  obtain ⟨⟨title, key⟩, flies, rfl⟩ := Option.map_eq_some_iff.mp lands
  have titled : title = text := by simpa using List.find?_some flies
  subst titled
  have member := List.mem_of_find?_eq_some flies
  obtain ⟨middle, run, cache, ended, callers⟩ : ∃ middle, Run keyText generate traffic middle ∧ _ :=
    run_complete member started
  have kept : middle.cache.flights = traffic.cache.flights := by
    rw [cache, complete]
    split
    · rfl
    · split <;> rfl
  refine ⟨_, .tail run (.land middle title key _ (kept ▸ member) ended), ?_⟩
  simp [cache, callers]

end KernelForge.Cache
