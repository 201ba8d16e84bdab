import KernelForge.Command.Action
import KernelForge.Proofs.Bundle.Results

/-!
A run of the program in a session, followed from its arguments to what it writes. What a command looks up leaves the
session alone and what it logs goes to the standard error only, so a kernel is delivered into the session that the
command was started in.
-/

namespace KernelForge.Command

variable {α β : Type} {before after : Session}

/-- An action that succeeds in a session, with what it gives and the session after it. -/
def Succeeds (action : ExceptT Failure (StateM Session) α) (before : Session) (value : α) (after : Session) : Prop :=
  StateT.run action.run before = (.ok value, after)

theorem succeeds_bind {first : ExceptT Failure (StateM Session) α} {next : α → ExceptT Failure (StateM Session) β}
    {value : β} : Succeeds (first >>= next) before value after ↔
      ∃ middle between, Succeeds first before middle between ∧ Succeeds (next middle) between value after := by
  unfold Succeeds
  rw [ExceptT.run_bind, StateT.run_bind]
  rcases StateT.run first.run before with ⟨result, between⟩
  cases result with
  | error failure =>
    constructor
    · intro ended
      cases ended
    · rintro ⟨_, _, ended, -⟩
      cases ended
  | ok middle =>
    constructor
    · intro ended
      exact ⟨middle, between, rfl, ended⟩
    · rintro ⟨_, _, ended, rest⟩
      cases ended
      exact rest

theorem succeeds_pure {given value : α} :
    Succeeds (pure given) before value after ↔ given = value ∧ before = after := by
  constructor
  · intro ended
    cases ended
    exact ⟨rfl, rfl⟩
  · rintro ⟨rfl, rfl⟩
    rfl

theorem not_succeeds_throw {failure : Failure} {value : α} : ¬Succeeds (throw failure) before value after := by
  intro ended
  cases ended

theorem succeeds_lift {action : StateM Session α} {value : α} :
    Succeeds (ExceptT.lift action) before value after ↔ StateT.run action before = (value, after) := by
  constructor
  · intro ended
    cases ended
    rfl
  · intro ended
    unfold Succeeds
    rw [ExceptT.run_lift, StateT.run_map, ended]
    rfl

theorem succeeds_except {result : Except Failure α} {value : α} :
    Succeeds (liftM result) before value after ↔ result = .ok value ∧ before = after := by
  cases result with
  | error failure =>
    constructor
    · intro ended
      cases ended
    · rintro ⟨ended, -⟩
      cases ended
  | ok given =>
    constructor
    · intro ended
      cases ended
      exact ⟨rfl, rfl⟩
    · rintro ⟨ended, rfl⟩
      cases ended
      rfl

/-- All that a session was written since is on the standard error. -/
def Session.Reports (before after : Session) : Prop :=
  ∃ reported, after = { before with reported }

theorem Session.Reports.trans {first middle last : Session} (one : first.Reports middle) (other : middle.Reports last) :
    first.Reports last := by
  obtain ⟨_, rfl⟩ := one
  obtain ⟨reported, rfl⟩ := other
  exact ⟨reported, rfl⟩

/-- A file is looked up without a trace. -/
theorem succeeds_read {path : String} {content : Except Failure String} :
    Succeeds (ExceptT.lift (Session.host.read path)) before content after ↔
      before.files.read path = content ∧ before = after := by
  rw [succeeds_lift]
  constructor
  · intro ended
    cases ended
    exact ⟨rfl, rfl⟩
  · rintro ⟨rfl, rfl⟩
    rfl

theorem eq_of_loadConfiguration {environment : Environment} {settings : Settings} {configuration : Configuration}
    (loaded : Succeeds (loadConfiguration Session.host environment settings) before configuration after) :
    before = after := by
  unfold loadConfiguration at loaded
  dsimp only at loaded
  split at loaded
  · exact (succeeds_pure.mp loaded).2
  · rw [succeeds_bind] at loaded
    obtain ⟨content, between, read, loaded⟩ := loaded
    obtain ⟨-, rfl⟩ := succeeds_read.mp read
    split at loaded
    · split at loaded
      · exact (succeeds_pure.mp loaded).2
      · exact absurd loaded not_succeeds_throw
    · exact (succeeds_except.mp loaded).2

theorem eq_of_loadTables {preferences : Preferences} {tables : Tuning.Tables}
    (loaded : Succeeds (loadTables Session.host preferences) before tables after) : before = after := by
  unfold loadTables at loaded
  split at loaded
  · exact (succeeds_pure.mp loaded).2
  · rw [succeeds_bind] at loaded
    obtain ⟨content, between, read, loaded⟩ := loaded
    obtain ⟨-, rfl⟩ := succeeds_read.mp read
    split at loaded
    · exact absurd loaded not_succeeds_throw
    · exact (succeeds_except.mp loaded).2

theorem prepare_host {environment : Environment} {settings : Settings} {context : Context (StateM Session)}
    (ready : Succeeds (prepare Session.host environment settings) before context after) :
    context.host = Session.host ∧ before = after := by
  unfold prepare at ready
  simp only [succeeds_bind, succeeds_except, succeeds_pure] at ready
  obtain ⟨configuration, _, loaded, threshold, _, ⟨-, rfl⟩, style, _, ⟨-, rfl⟩, rfl, rfl⟩ := ready
  exact ⟨rfl, eq_of_loadConfiguration loaded⟩

variable {context : Context (StateM Session)}

theorem reports_of_log (home : context.host = Session.host) {records : List Log.Record} {nothing : Unit}
    (logged : Succeeds (context.log records) before nothing after) : before.Reports after := by
  rw [Context.log, home, succeeds_lift] at logged
  cases logged
  exact ⟨_, rfl⟩

/-- The generator of a command has not generated anything yet. -/
theorem settled_of_generator (home : context.host = Session.host) {generator : Generator}
    (made : Succeeds context.generator before generator after) : generator.Settled ∧ before.Reports after := by
  unfold Context.generator at made
  simp only [succeeds_bind, succeeds_except, succeeds_pure, home] at made
  obtain ⟨device, _, ⟨-, rfl⟩, tables, _, loaded, _, _, logged, rfl, rfl⟩ := made
  obtain rfl := eq_of_loadTables loaded
  exact ⟨Generator.settled_fresh device tables, reports_of_log home logged⟩

theorem result_of_finish (home : context.host = Session.host) {production : Production} {generated : Generated}
    (finished : Succeeds (context.finish production) before generated after) :
    production.result = .ok generated ∧ before.Reports after := by
  unfold Context.finish at finished
  simp only [succeeds_bind, succeeds_except] at finished
  obtain ⟨_, _, logged, made, rfl⟩ := finished
  exact ⟨made, reports_of_log home logged⟩

/-! ### Runs that deliver a kernel -/

/-- A task is worked on with what the options and the world make ready, and the kernel that it comes to is delivered
    into the session that the command was started in. -/
inductive Delivers (environment : Environment) (settings : Settings) (before : Session) (task : Task)
    (generated : Generated) (after : Session) : Prop
  | intro {context : Context (StateM Session)} {generator : Generator} {tuned : Session} {reported : String}
    (ready : Succeeds (prepare Session.host environment settings) before context before)
    (device : Succeeds context.generator before generator tuned)
    (makes : task.Makes generator.device generator.tables generated)
    (written : Succeeds (context.deliver settings generated) { before with reported } () after)

section Running

variable {environment : Environment} {settings : Settings}

/-- The steps that the commands for one kernel have in common. -/
theorem delivers_of_steps (ready : Succeeds (prepare Session.host environment settings) before context before)
    {generator : Generator} {tuned finished reported : Session}
    (made : Succeeds context.generator before generator tuned) {task : Task} {generated : Generated}
    (ended : Succeeds (context.finish (generator.generate task)) tuned generated finished)
    {records : List Log.Record} {nothing : Unit} (logged : Succeeds (context.log records) finished nothing reported)
    (written : Succeeds (context.deliver settings generated) reported () after) :
    Delivers environment settings before task generated after := by
  obtain ⟨home, -⟩ := prepare_host ready
  obtain ⟨settled, first⟩ := settled_of_generator home made
  obtain ⟨given, second⟩ := result_of_finish home ended
  obtain ⟨reported, rfl⟩ := (first.trans second).trans (reports_of_log home logged)
  exact ⟨ready, made, settled.makes given, written⟩

theorem delivers_of_gemm (ready : Succeeds (prepare Session.host environment settings) before context before)
    (ended : Succeeds (gemm context settings) before () after) :
    ∃ problem generated, gemmProblem settings = .ok problem ∧
      Delivers environment settings before (.gemm problem) generated after := by
  unfold gemm at ended
  simp only [succeeds_bind, succeeds_except] at ended
  obtain ⟨problem, _, ⟨described, rfl⟩, generator, _, made, generated, _, finished, _, _, logged, written⟩ := ended
  exact ⟨problem, generated, described, delivers_of_steps ready made finished logged written⟩

theorem delivers_of_attention (ready : Succeeds (prepare Session.host environment settings) before context before)
    (ended : Succeeds (attention context settings) before () after) :
    ∃ pass generated, Attention.Pass.parse (settings.text "pass" "forward") = .ok pass ∧
      Delivers environment settings before
        (.attention (attentionProblem settings) ⟨pass, settings.switch "secondary"⟩) generated after := by
  unfold attention at ended
  simp only [succeeds_bind, succeeds_except] at ended
  obtain ⟨pass, _, ⟨named, rfl⟩, generator, _, made, generated, _, finished, _, _, logged, written⟩ := ended
  exact ⟨pass, generated, named, delivers_of_steps ready made finished logged written⟩

variable {arguments : List String} {invocation : Invocation}

/-- A command that is run to its end was made ready, and has all the options that it needs. -/
theorem perform_of_run (parsed : Request.parse arguments = .invoked invocation)
    (ran : StateT.run (run Session.host environment arguments) before = (.finished (.ok ()), after)) :
    ∃ context, Succeeds (prepare Session.host environment invocation.settings) before context before ∧
      invocation.missing = [] ∧ StateT.run (perform context invocation) before = (.finished (.ok ()), after) := by
  unfold run at ran
  rw [parsed] at ran
  dsimp only at ran
  rw [StateT.run_bind] at ran
  rcases ready : StateT.run (prepare Session.host environment invocation.settings).run before with ⟨result, between⟩
  rw [ready] at ran
  cases result with
  | error failure => cases ran
  | ok context =>
    obtain ⟨-, rfl⟩ := prepare_host ready
    dsimp only [Id.run, bind] at ran
    split at ran
    · rename_i complete
      exact ⟨context, ready, List.isEmpty_iff.mp complete, ran⟩
    · cases ran

/-- What a command needs was given. -/
theorem has_of_missing (complete : invocation.missing = []) {form : OptionForm}
    (own : form ∈ invocation.verb.options) (needed : form.required = true) :
    invocation.settings.has form.name = true := by
  have wanted : form.name ∈ (invocation.verb.options.filter (·.required)).map (·.name) :=
    List.mem_map_of_mem (List.mem_filter.mpr ⟨own, needed⟩)
  simpa using List.filter_eq_nil_iff.mp complete form.name wanted

theorem succeeds_of_finished {action : ExceptT Failure (StateM Session) Unit}
    (ran : StateT.run (do return Outcome.finished (← action.run)) before = (.finished (.ok ()), after)) :
    Succeeds action before () after := by
  rw [StateT.run_bind] at ran
  unfold Succeeds
  rcases ended : StateT.run action.run before with ⟨result, between⟩
  rw [ended] at ran
  cases ran
  rfl

end Running

end KernelForge.Command
