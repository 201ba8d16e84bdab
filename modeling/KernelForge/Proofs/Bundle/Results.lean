import KernelForge.Bundle
import KernelForge.Proofs.Cache.Listing
import KernelForge.Proofs.Cell

/-!
The results of the jobs of a bundle. Jobs are worked on side by side, share generations and end in any order; each puts
its result into a place of its own. What a job is given depends on none of that, so the places hold what one worker
alone makes of the jobs, one after the other.
-/

namespace KernelForge

/-- What a task comes to on a device: the kernel that the tables choose for it, with that kernel's program. -/
inductive Task.Makes (device : Device) (tables : Tuning.Tables) : Task → Generated → Prop
  | gemm {problem : Gemm.Problem} {descriptor : Gemm.Descriptor} {kernel : Gemm.Kernel}
    (chosen : problem.descriptor device tables = .ok descriptor)
    (accepted : Gemm.Kernel.ofDescriptor descriptor = .ok kernel) :
    Makes device tables (.gemm problem)
      ⟨.gemm descriptor, kernel.program, [(kernel.grid problem.extents).1, (kernel.grid problem.extents).2],
        problem.boundConstants⟩
  | attention {problem : Attention.Problem} {type : Attention.KernelType} {descriptor : Attention.Descriptor}
    {kernel : Attention.Kernel} (chosen : problem.descriptor type device tables = .ok descriptor)
    (accepted : Attention.Kernel.ofDescriptor descriptor = .ok kernel) :
    Makes device tables (.attention problem type)
      ⟨.attention descriptor, kernel.program, [kernel.grid problem.extents], problem.boundConstants⟩

/-- What a task is given by two memories that others use at the same time: the program that its caller was answered
    with. -/
inductive Task.Given (device : Device) (tables : Tuning.Tables) (gemms : Cache.Traffic Gemm.Descriptor)
    (attentions : Cache.Traffic Attention.Descriptor) : Task → Generated → Prop
  | gemm {problem : Gemm.Problem} {descriptor : Gemm.Descriptor} {program : Shader.Program} {kernel : Gemm.Kernel}
    (chosen : problem.descriptor device tables = .ok descriptor)
    (answered : ⟨descriptor, .answered (.ok program)⟩ ∈ gemms.callers)
    (accepted : Gemm.Kernel.ofDescriptor descriptor = .ok kernel) :
    Given device tables gemms attentions (.gemm problem)
      ⟨.gemm descriptor, program, [(kernel.grid problem.extents).1, (kernel.grid problem.extents).2],
        problem.boundConstants⟩
  | attention {problem : Attention.Problem} {type : Attention.KernelType} {descriptor : Attention.Descriptor}
    {program : Shader.Program} {kernel : Attention.Kernel}
    (chosen : problem.descriptor type device tables = .ok descriptor)
    (answered : ⟨descriptor, .answered (.ok program)⟩ ∈ attentions.callers)
    (accepted : Attention.Kernel.ofDescriptor descriptor = .ok kernel) :
    Given device tables gemms attentions (.attention problem type)
      ⟨.attention descriptor, program, [kernel.grid problem.extents], problem.boundConstants⟩

section Sharing

variable {device : Device} {tables : Tuning.Tables} {gemms : Cache.Traffic Gemm.Descriptor}
  {attentions : Cache.Traffic Attention.Descriptor}

theorem Gemm.program_of_generate {descriptor : Descriptor} {program : Shader.Program} {kernel : Kernel}
    (accepted : Kernel.ofDescriptor descriptor = .ok kernel) (generated : generate descriptor = .ok program) :
    program = kernel.program := by
  rw [generate, accepted] at generated
  exact (Except.ok.inj generated).symm

theorem Attention.program_of_generate {descriptor : Descriptor} {program : Shader.Program} {kernel : Kernel}
    (accepted : Kernel.ofDescriptor descriptor = .ok kernel) (generated : generate descriptor = .ok program) :
    program = kernel.program := by
  rw [generate, accepted] at generated
  exact (Except.ok.inj generated).symm

/-- Whatever else happens to the memories, a task is given what it comes to. -/
theorem Task.Given.makes (gemmsReached : Cache.Reachable Gemm.Descriptor.key Gemm.generate gemms)
    (attentionsReached : Cache.Reachable Attention.Descriptor.key Attention.generate attentions) {task : Task}
    {generated : Generated} (given : task.Given device tables gemms attentions generated) :
    task.Makes device tables generated := by
  cases given with
  | gemm chosen answered accepted =>
    have coherent := Cache.Coherent.of_reachable (fun _ _ => Gemm.generate_of_key) gemmsReached
    have generated := coherent.served _ answered _ (.inr (.inl rfl))
    rw [Gemm.program_of_generate accepted generated]
    exact .gemm chosen accepted
  | attention chosen answered accepted =>
    have coherent := Cache.Coherent.of_reachable (fun _ _ => Attention.generate_of_key) attentionsReached
    have generated := coherent.served _ answered _ (.inr (.inl rfl))
    rw [Attention.program_of_generate accepted generated]
    exact .attention chosen accepted

end Sharing

namespace Bundle

/-! ### Places -/

/-- The places of the results of jobs, as jobs end one by one in any order. -/
inductive Places (given : Task → Generated → Prop) (jobs : List Manifest.Job) : List (Option Entry) → Prop
  | start : Places given jobs (List.replicate jobs.length none)
  | finish {places : List (Option Entry)} (earlier : Places given jobs places) {index : Nat} {job : Manifest.Job}
    (works : jobs[index]? = some job) (free : places[index]? = some none) {generated : Generated}
    (ends : given job.task generated) :
    Places given jobs (places.set index (some ⟨job.name, job.file, generated⟩))

variable {given : Task → Generated → Prop} {jobs : List Manifest.Job}

/-- The entry of a job in a bundle. -/
structure IsEntry (given : Task → Generated → Prop) (job : Manifest.Job) (entry : Entry) : Prop where
  name : entry.name = job.name
  file : entry.file = job.file
  generated : given job.task entry.generated

theorem Places.length {places : List (Option Entry)} (filled : Places given jobs places) :
    places.length = jobs.length := by
  induction filled with
  | start => exact List.length_replicate
  | finish _ _ _ _ ih => rw [List.length_set, ih]

/-- What stands in a place is the entry of its job. -/
theorem Places.isEntry {places : List (Option Entry)} (filled : Places given jobs places) {index : Nat} {entry : Entry}
    (present : places[index]? = some (some entry)) : ∃ job, jobs[index]? = some job ∧ IsEntry given job entry := by
  induction filled with
  | start =>
    rw [List.getElem?_replicate] at present
    split at present <;> cases present
  | @finish places _ place job works free generated ends ih =>
    rw [List.getElem?_set] at present
    split at present
    · next here =>
      subst here
      split at present
      · obtain rfl := Option.some.inj (Option.some.inj present)
        exact ⟨job, works, rfl, rfl, ends⟩
      · cases present
    · exact ih present

/-- When all places are filled, they hold the entries of the jobs in their order. -/
theorem Places.forall₂ {entries : List Entry} (filled : Places given jobs (entries.map some)) :
    List.Forall₂ (IsEntry given) jobs entries := by
  have length := filled.length
  rw [List.length_map] at length
  refine List.forall₂_iff_get.mpr ⟨length.symm, fun index inJobs inEntries => ?_⟩
  have present : (entries.map some)[index]? = some (some entries[index]) := by
    rw [List.getElem?_map, List.getElem?_eq_getElem inEntries]
    rfl
  obtain ⟨job, works, entry⟩ := filled.isEntry present
  rw [List.getElem?_eq_getElem inJobs] at works
  obtain rfl := Option.some.inj works
  exact entry

end Bundle

/-! ### One after the other -/

namespace Cache

variable {κ : Type} [DecidableEq κ] {keyText : κ → String} {generate : κ → Except Failure Shader.Program} {cache : Cache κ}

/-- A caller that asks while nobody else moves is given what its descriptor makes. -/
theorem get_result (sound : Sound generate cache) (idle : cache.flights = []) {key : κ} {program : Shader.Program}
    (made : generate key = .ok program) : (cache.get keyText generate key).result = .ok program := by
  cases found : cache.lookup? key with
  | some kept =>
    have same := sound.made _ (mem_of_lookup? found)
    rw [made] at same
    obtain rfl := Except.ok.inj same
    simp [get, inquire, found]
  | none =>
    have missing : ∀ flights counts, ({ cache with flights, counts } : Cache κ).lookup? key = none :=
      fun _ _ => found
    simp [get, inquire, found, idle, land, complete, missing, made]

theorem reachable_get (reached : ∃ traffic, Reachable keyText generate traffic ∧ traffic.cache = cache)
    (idle : cache.flights = []) (key : κ) :
    (∃ traffic, Reachable keyText generate traffic ∧ traffic.cache = (cache.get keyText generate key).cache) ∧
      (cache.get keyText generate key).cache.flights = [] := by
  obtain ⟨traffic, ⟨name, run⟩, rfl⟩ := reached
  obtain ⟨after, later, same, still⟩ := @run_get _ _ keyText generate _ idle key
  exact ⟨⟨after, ⟨name, run.trans later⟩, same⟩, same ▸ still⟩

/-- Some memory answers a caller whose descriptor makes a program. -/
theorem reachable_answered (keyText : κ → String) {key : κ} {program : Shader.Program}
    (made : generate key = .ok program) :
    ∃ traffic, Reachable keyText generate traffic ∧ ⟨key, .answered (.ok program)⟩ ∈ traffic.callers := by
  obtain ⟨asked, run, content, callers, started⟩ := run_inquire keyText generate
    ⟨⟨"", [], [], {}⟩, fun _ => .started, [], []⟩ key
  have lands : ∃ landing, asked.cache.land keyText generate (keyText key) = some landing ∧
      landing.result = .ok program := by
    simp [content, inquire, land, complete, lookup?, made]
  obtain ⟨landing, lands, result⟩ := lands
  obtain ⟨landed, later, -, served⟩ := run_land (started _ rfl) lands
  have ready : landed.callers[0]? = some ⟨key, .served (.ok program)⟩ := by
    simp [served, callers, inquire, lookup?, Caller.serve, result]
  refine ⟨_, ⟨_, (run.trans later).tail (.receive landed 0 key (.ok program) ready)⟩, ?_⟩
  simp [Traffic.turn, served, callers]

end Cache

namespace Generator

/-- A generator between two generations. -/
structure Settled (generator : Generator) : Prop extends generator.Reached where
  idleGemms : generator.gemms.flights = []
  idleAttentions : generator.attentions.flights = []

theorem settled_fresh (device : Device) (tables : Tuning.Tables) : Settled { device, tables } where
  gemms := ⟨_, ⟨_, .refl⟩, rfl⟩
  attentions := ⟨_, ⟨_, .refl⟩, rfl⟩
  idleGemms := rfl
  idleAttentions := rfl

variable {generator : Generator} {task : Task} {generated : Generated}

/-- A settled generator gives a task what it comes to, and is settled again. -/
theorem Settled.generate (settled : generator.Settled)
    (makes : task.Makes generator.device generator.tables generated) :
    (generator.generate task).result = .ok generated ∧ (generator.generate task).generator.Settled ∧
      (generator.generate task).generator.device = generator.device ∧
      (generator.generate task).generator.tables = generator.tables := by
  cases makes with
  | @gemm problem descriptor kernel chosen accepted =>
    have made : Gemm.generate descriptor = .ok kernel.program := by rw [Gemm.generate, accepted]
    have given := @Cache.get_result _ _ Gemm.Descriptor.key _ _ settled.sound.gemms settled.idleGemms _ _ made
    obtain ⟨reached, idle⟩ := Cache.reachable_get settled.gemms settled.idleGemms descriptor
    simp only [Generator.generate, Generator.gemm, chosen, given, accepted, and_self]
    exact ⟨rfl, ⟨⟨reached, settled.attentions⟩, idle, settled.idleAttentions⟩, trivial⟩
  | @attention problem type descriptor kernel chosen accepted =>
    have made : Attention.generate descriptor = .ok kernel.program := by rw [Attention.generate, accepted]
    have given := @Cache.get_result _ _ Attention.Descriptor.key _ _ settled.sound.attentions settled.idleAttentions
      _ _ made
    obtain ⟨reached, idle⟩ := Cache.reachable_get settled.attentions settled.idleAttentions descriptor
    simp only [Generator.generate, Generator.attention, chosen, given, accepted, and_self]
    exact ⟨rfl, ⟨⟨settled.gemms, reached⟩, settled.idleGemms, idle⟩, trivial⟩

/-- What a settled generator gives a task is what it comes to. -/
theorem Settled.makes (settled : generator.Settled) (given : (generator.generate task).result = .ok generated) :
    task.Makes generator.device generator.tables generated := by
  cases task with
  | gemm problem =>
    have made := given
    rw [Generator.generate, Generator.gemm] at made
    split at made
    · cases made
    · rename_i descriptor chosen
      obtain ⟨program, -, made⟩ := bind_ok_iff.mp made
      obtain ⟨kernel, accepted, -⟩ := bind_ok_iff.mp made
      have makes := Task.Makes.gemm chosen (mapError_ok.mp accepted)
      rw [(settled.generate makes).1] at given
      exact Except.ok.inj given ▸ makes
  | attention problem type =>
    have made := given
    rw [Generator.generate, Generator.attention] at made
    split at made
    · cases made
    · rename_i descriptor chosen
      obtain ⟨program, -, made⟩ := bind_ok_iff.mp made
      obtain ⟨kernel, accepted, -⟩ := bind_ok_iff.mp made
      have makes := Task.Makes.attention chosen (mapError_ok.mp accepted)
      rw [(settled.generate makes).1] at given
      exact Except.ok.inj given ▸ makes

end Generator

namespace Bundle

/-- One worker alone makes the same entries. -/
theorem generateAll_of_makes {device : Device} {tables : Tuning.Tables} {jobs : List Manifest.Job}
    {entries : List Entry} (each : List.Forall₂ (IsEntry (Task.Makes device tables)) jobs entries)
    {generator : Generator} (settled : generator.Settled) (here : generator.device = device)
    (tuned : generator.tables = tables) : (generateAll generator jobs).result = .ok entries := by
  induction each generalizing generator with
  | nil => rfl
  | @cons job entry jobs entries first later ih =>
    obtain ⟨given, again, sameDevice, sameTables⟩ := settled.generate (here ▸ tuned ▸ first.generated)
    have rest := ih again (sameDevice.trans here) (sameTables.trans tuned)
    have named : entry = ⟨job.name, job.file, entry.generated⟩ := by rw [← first.name, ← first.file]
    simp only [generateAll, given, rest]
    rw [named]
    rfl

end Bundle

end KernelForge
