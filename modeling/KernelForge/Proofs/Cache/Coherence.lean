import KernelForge.Proofs.Cache.Interleaving
import KernelForge.Proofs.Gemm.Key

/-!
The memory of programs is coherent under every interleaving. The argument rests on texts: one generation with a text
is under way at a time, and a descriptor has one text, so nobody else stores a descriptor between the moment its
generation finds it missing and the moment it is stored. A caller may be served by the generation of another
descriptor with the same text, which makes the same program.
-/

namespace KernelForge.Cache

variable {κ : Type} [DecidableEq κ] {keyText : κ → String} {generate : κ → Except Failure Shader.Program}
  {traffic after : Traffic κ}

theorem mem_of_lookup? {cache : Cache κ} {key : κ} {program : Shader.Program}
    (found : cache.lookup? key = some program) : (key, program) ∈ cache.stored := by
  unfold lookup? at found
  obtain ⟨⟨kept, content⟩, first, rfl⟩ := Option.map_eq_some_iff.mp found
  obtain rfl : kept = key := by simpa using List.find?_some first
  exact List.mem_of_find?_eq_some first

/-- An assignment to a descriptor without a program adds an entry behind the others. -/
theorem lookup?_assign {cache : Cache κ} {key : κ} {program : Shader.Program} (absent : cache.lookup? key = none)
    (other : κ) :
    (cache.assign key program).lookup? other = if other = key then some program else cache.lookup? other := by
  unfold assign
  rw [if_pos absent]
  unfold lookup? at absent ⊢
  by_cases same : other = key
  · subst same
    rw [Option.map_eq_none_iff] at absent
    simp [List.find?_append, absent]
  · have different : ¬ key = other := fun equal => same equal.symm
    simp [List.find?_append, same, different]

/-- What holds between any two steps. -/
structure Coherent (keyText : κ → String) (generate : κ → Except Failure Shader.Program) (traffic : Traffic κ) :
    Prop where
  /-- What is stored was generated. -/
  stored : ∀ entry ∈ traffic.cache.stored, generate entry.1 = .ok entry.2
  /-- A generation has the text of its descriptor. -/
  titled : ∀ flight ∈ traffic.cache.flights, flight.1 = keyText flight.2
  /-- Two generations that are under way have different texts. -/
  single : ∀ flight ∈ traffic.cache.flights, ∀ other ∈ traffic.cache.flights, flight.1 = other.1 → flight = other
  /-- What a generation did not find is still missing. -/
  missing : ∀ flight ∈ traffic.cache.flights, traffic.stage flight.1 = .missed →
    traffic.cache.lookup? flight.2 = none
  /-- What a generation is about to store was generated and is still missing. -/
  pending : ∀ flight ∈ traffic.cache.flights, ∀ program, traffic.stage flight.1 = .generated program →
    generate flight.2 = .ok program ∧ traffic.cache.lookup? flight.2 = none
  /-- What a generation is about to hand over was generated. -/
  ended : ∀ flight ∈ traffic.cache.flights, ∀ program, traffic.stage flight.1 = .ended (.ok program) →
    generate flight.2 = .ok program
  /-- What a caller holds or was given was generated, if it is a program. -/
  served : ∀ caller ∈ traffic.callers, ∀ program,
    (caller.standing = .served (.ok program) ∨ caller.standing = .answered (.ok program) ∨
      caller.standing = .looked (some program)) → generate caller.key = .ok program
  /-- What was generated is stored or about to be stored. -/
  accounted : ∀ key ∈ traffic.generated, traffic.cache.lookup? key ≠ none ∨
    ∃ program, (keyText key, key) ∈ traffic.cache.flights ∧ traffic.stage (keyText key) = .generated program
  /-- Nothing was generated twice. -/
  once : traffic.generated.Nodup

namespace Coherent

/-- Steps that change nothing but callers and counts. -/
theorem call (coherent : Coherent keyText generate traffic) (counts : CacheCounts) (callers : List (Caller κ))
    (served : ∀ caller ∈ callers, ∀ program,
      (caller.standing = .served (.ok program) ∨ caller.standing = .answered (.ok program) ∨
        caller.standing = .looked (some program)) → generate caller.key = .ok program) :
    Coherent keyText generate { traffic with cache := { traffic.cache with counts }, callers } :=
  ⟨coherent.stored, coherent.titled, coherent.single, coherent.missing, coherent.pending, coherent.ended, served,
    coherent.accounted, coherent.once⟩

theorem arrive (coherent : Coherent keyText generate traffic) (counts : CacheCounts) {caller : Caller κ}
    (fine : ∀ program, (caller.standing = .served (.ok program) ∨ caller.standing = .answered (.ok program) ∨
      caller.standing = .looked (some program)) → generate caller.key = .ok program) :
    Coherent keyText generate
      { traffic with cache := { traffic.cache with counts }, callers := traffic.callers ++ [caller] } := by
  refine coherent.call counts _ ?_
  intro someone member
  rcases List.mem_append.mp member with earlier | last
  · exact coherent.served someone earlier
  · obtain rfl := List.mem_singleton.mp last
    exact fine

theorem turn (coherent : Coherent keyText generate traffic) (index : Nat) {key : κ} {standing : Standing}
    (fine : ∀ program, (standing = .served (.ok program) ∨ standing = .answered (.ok program) ∨
      standing = .looked (some program)) → generate key = .ok program) :
    Coherent keyText generate (traffic.turn index key standing) := by
  refine coherent.call traffic.cache.counts _ ?_
  intro someone member
  rcases List.mem_or_eq_of_mem_set member with kept | rfl
  · exact coherent.served someone kept
  · exact fine

theorem generate_of_lookup? (coherent : Coherent keyText generate traffic) {key : κ} {program : Shader.Program}
    (found : traffic.cache.lookup? key = some program) : generate key = .ok program :=
  coherent.stored _ (mem_of_lookup? found)

/-- A generation with a text is the only one with it. -/
theorem eq_of_title (coherent : Coherent keyText generate traffic) {text : String} {key : κ}
    (flies : (text, key) ∈ traffic.cache.flights) {flight : String × κ} (member : flight ∈ traffic.cache.flights)
    (same : flight.1 = text) : flight = (text, key) :=
  coherent.single flight member (text, key) flies same

/-- Steps of a generation that store nothing. -/
theorem move (coherent : Coherent keyText generate traffic) (counts : CacheCounts) (stage : Stage) {text : String}
    {key : κ} (flies : (text, key) ∈ traffic.cache.flights)
    (idle : ∀ program, traffic.stage text ≠ .generated program)
    (missing : stage = .missed → traffic.cache.lookup? key = none)
    (pending : ∀ program, stage = .generated program →
      generate key = .ok program ∧ traffic.cache.lookup? key = none)
    (ended : ∀ program, stage = .ended (.ok program) → generate key = .ok program) :
    Coherent keyText generate { traffic.move text stage with cache := { traffic.cache with counts } } where
  stored := coherent.stored
  titled := coherent.titled
  single := coherent.single
  missing := by
    intro flight member reached
    by_cases same : flight.1 = text
    · obtain rfl := coherent.eq_of_title flies member same
      exact missing (by simpa [Traffic.move] using reached)
    · exact coherent.missing flight member (by simpa [Traffic.move, same] using reached)
  pending := by
    intro flight member program reached
    by_cases same : flight.1 = text
    · obtain rfl := coherent.eq_of_title flies member same
      exact pending program (by simpa [Traffic.move] using reached)
    · exact coherent.pending flight member program (by simpa [Traffic.move, same] using reached)
  ended := by
    intro flight member program reached
    by_cases same : flight.1 = text
    · obtain rfl := coherent.eq_of_title flies member same
      exact ended program (by simpa [Traffic.move] using reached)
    · exact coherent.ended flight member program (by simpa [Traffic.move, same] using reached)
  served := coherent.served
  accounted := by
    intro made member
    rcases coherent.accounted made member with stored | ⟨program, flying, reached⟩
    · exact .inl stored
    · refine .inr ⟨program, flying, ?_⟩
      have different : keyText made ≠ text := by
        rintro rfl
        exact idle program reached
      simpa [Traffic.move, different] using reached
  once := coherent.once

/-- What a generation is about to generate was not generated before. -/
theorem not_generated (coherent : Coherent keyText generate traffic) {text : String} {key : κ}
    (flies : (text, key) ∈ traffic.cache.flights) (missed : traffic.stage text = .missed) :
    key ∉ traffic.generated := by
  intro member
  rcases coherent.accounted key member with stored | ⟨program, -, reached⟩
  · exact stored (coherent.missing _ flies missed)
  · rw [← coherent.titled _ flies, missed] at reached
    cases reached

theorem succeed (coherent : Coherent keyText generate traffic) (counts : CacheCounts) {text : String} {key : κ}
    {program : Shader.Program} (flies : (text, key) ∈ traffic.cache.flights) (missed : traffic.stage text = .missed)
    (succeeds : generate key = .ok program) :
    Coherent keyText generate
      { traffic.move text (.generated program) with
        cache := { traffic.cache with counts }, generated := traffic.generated ++ [key] } := by
  have moved := coherent.move counts (.generated program) flies (by simp [missed]) (by simp)
    (by
      rintro _ ⟨⟩
      exact ⟨succeeds, coherent.missing _ flies missed⟩)
    (by simp)
  refine { moved with accounted := ?_, once := ?_ }
  · intro made member
    rcases List.mem_append.mp member with earlier | last
    · exact moved.accounted made earlier
    · obtain rfl := List.mem_singleton.mp last
      obtain rfl : text = keyText made := coherent.titled _ flies
      exact .inr ⟨program, flies, by simp [Traffic.move]⟩
  · rw [List.nodup_append]
    refine ⟨coherent.once, by simp, ?_⟩
    rintro made earlier _ last rfl
    exact coherent.not_generated flies missed (List.mem_singleton.mp last ▸ earlier)

/-- A generation stores what nobody has stored since it looked. -/
theorem store (coherent : Coherent keyText generate traffic) {text : String} {key : κ} {program : Shader.Program}
    (flies : (text, key) ∈ traffic.cache.flights) (ready : traffic.stage text = .generated program) :
    Coherent keyText generate
      { traffic.move text (.ended (.ok program)) with cache := traffic.cache.assign key program } := by
  obtain ⟨succeeds, absent⟩ := coherent.pending _ flies program ready
  have flights : (traffic.cache.assign key program).flights = traffic.cache.flights := rfl
  have stored : (traffic.cache.assign key program).stored = traffic.cache.stored ++ [(key, program)] := by
    simp [assign, absent]
  -- Another generation has another text, so another descriptor, whose entry the assignment leaves alone.
  have elsewhere : ∀ flight ∈ traffic.cache.flights, flight.1 ≠ text →
      (traffic.cache.assign key program).lookup? flight.2 = traffic.cache.lookup? flight.2 := by
    intro flight member different
    rw [lookup?_assign absent, if_neg]
    intro same
    apply different
    rw [coherent.titled flight member, same]
    exact (coherent.titled _ flies).symm
  refine ⟨?_, coherent.titled, coherent.single, ?_, ?_, ?_, coherent.served, ?_, coherent.once⟩
  · intro entry member
    rw [stored] at member
    rcases List.mem_append.mp member with earlier | last
    · exact coherent.stored entry earlier
    · obtain rfl := List.mem_singleton.mp last
      exact succeeds
  · intro flight member reached
    by_cases same : flight.1 = text
    · simp [Traffic.move, same] at reached
    · rw [elsewhere flight member same]
      exact coherent.missing flight member (by simpa [Traffic.move, same] using reached)
  · intro flight member content reached
    by_cases same : flight.1 = text
    · simp [Traffic.move, same] at reached
    · rw [elsewhere flight member same]
      exact coherent.pending flight member content (by simpa [Traffic.move, same] using reached)
  · intro flight member content reached
    by_cases same : flight.1 = text
    · obtain rfl := coherent.eq_of_title flies member same
      obtain rfl : program = content := by simpa [Traffic.move] using reached
      exact succeeds
    · exact coherent.ended flight member content (by simpa [Traffic.move, same] using reached)
  · intro made member
    by_cases same : made = key
    · left
      rw [lookup?_assign absent, if_pos same]
      simp
    · rcases coherent.accounted made member with kept | ⟨content, flying, reached⟩
      · left
        rwa [lookup?_assign absent, if_neg same]
      · refine .inr ⟨content, flying, ?_⟩
        have different : keyText made ≠ text := by
          rintro rfl
          exact same (congrArg Prod.snd (coherent.eq_of_title flies flying rfl))
        simpa [Traffic.move, different] using reached

/-- A new generation has a text that no other has. -/
theorem start (coherent : Coherent keyText generate traffic) {key : κ}
    (alone : ∀ flight ∈ traffic.cache.flights, flight.1 ≠ keyText key) :
    Coherent keyText generate
      { traffic.move (keyText key) .started with
        cache := { traffic.cache with flights := traffic.cache.flights ++ [(keyText key, key)] } } := by
  -- The generations of before are at the stages of before.
  have older : ∀ flight ∈ traffic.cache.flights ++ [(keyText key, key)], ∀ stage, stage ≠ .started →
      (traffic.move (keyText key) .started).stage flight.1 = stage →
      flight ∈ traffic.cache.flights ∧ traffic.stage flight.1 = stage := by
    intro flight member stage later reached
    rcases List.mem_append.mp member with earlier | last
    · exact ⟨earlier, by simpa [Traffic.move, alone flight earlier] using reached⟩
    · obtain rfl := List.mem_singleton.mp last
      simp only [Traffic.move, Function.update_self] at reached
      exact absurd reached.symm later
  refine ⟨coherent.stored, ?_, ?_, ?_, ?_, ?_, coherent.served, ?_, coherent.once⟩
  · intro flight member
    rcases List.mem_append.mp member with earlier | last
    · exact coherent.titled flight earlier
    · obtain rfl := List.mem_singleton.mp last
      rfl
  · intro flight member other among same
    rcases List.mem_append.mp member with earlier | last <;> rcases List.mem_append.mp among with before | final
    · exact coherent.single flight earlier other before same
    · obtain rfl := List.mem_singleton.mp final
      exact absurd same (alone flight earlier)
    · obtain rfl := List.mem_singleton.mp last
      exact absurd same.symm (alone other before)
    · rw [List.mem_singleton.mp last, List.mem_singleton.mp final]
  · intro flight member reached
    obtain ⟨earlier, stage⟩ := older flight member _ (by simp) reached
    exact coherent.missing flight earlier stage
  · intro flight member program reached
    obtain ⟨earlier, stage⟩ := older flight member _ (by simp) reached
    exact coherent.pending flight earlier program stage
  · intro flight member program reached
    obtain ⟨earlier, stage⟩ := older flight member _ (by simp) reached
    exact coherent.ended flight earlier program stage
  · intro made member
    rcases coherent.accounted made member with stored | ⟨program, flying, reached⟩
    · exact .inl stored
    · refine .inr ⟨program, List.mem_append_left _ flying, ?_⟩
      simpa [Traffic.move, alone _ flying] using reached

/-- Everyone who joined a generation has a descriptor with its text, so the result is theirs, too. -/
theorem land (coherent : Coherent keyText generate traffic)
    (equalTexts : ∀ first second, keyText first = keyText second → generate first = generate second)
    {text : String} {key : κ} {result : Except Failure Shader.Program} (flies : (text, key) ∈ traffic.cache.flights)
    (ended : traffic.stage text = .ended result) :
    Coherent keyText generate
      { traffic with
        cache := { traffic.cache with flights := traffic.cache.flights.filter (·.1 != text) }
        callers := traffic.callers.map fun caller => caller.serve keyText text result } := by
  have kept : ∀ flight ∈ traffic.cache.flights.filter (·.1 != text), flight ∈ traffic.cache.flights :=
    fun _ member => (List.mem_filter.mp member).1
  refine ⟨coherent.stored, fun flight member => coherent.titled flight (kept flight member),
    fun flight member other among => coherent.single flight (kept flight member) other (kept other among),
    fun flight member => coherent.missing flight (kept flight member),
    fun flight member => coherent.pending flight (kept flight member),
    fun flight member => coherent.ended flight (kept flight member), ?_, ?_, coherent.once⟩
  · intro someone member program held
    obtain ⟨caller, earlier, rfl⟩ := List.mem_map.mp member
    have before := coherent.served caller earlier program
    obtain ⟨wanted, standing⟩ := caller
    cases standing with
    | waiting =>
      by_cases same : keyText wanted = text
      · simp only [Caller.serve, if_pos same] at held ⊢
        obtain rfl : result = .ok program := by simpa using held
        rw [equalTexts wanted key (same.trans (coherent.titled _ flies))]
        exact coherent.ended _ flies program ended
      · simp [Caller.serve, same] at held
    | missed => exact before held
    | served content => exact before held
    | answered content => exact before held
    | looked content => exact before held
  · intro made member
    rcases coherent.accounted made member with stored | ⟨program, flying, reached⟩
    · exact .inl stored
    · refine .inr ⟨program, List.mem_filter.mpr ⟨flying, ?_⟩, reached⟩
      -- The one that lands has stored its program.
      have different : keyText made ≠ text := by
        rintro rfl
        rw [ended] at reached
        cases reached
      simpa using different

theorem step (equalTexts : ∀ first second, keyText first = keyText second → generate first = generate second)
    (coherent : Coherent keyText generate traffic) (step : Step keyText generate traffic after) :
    Coherent keyText generate after := by
  cases step with
  | look key => exact coherent.arrive traffic.cache.counts fun program held =>
      coherent.generate_of_lookup? (by simpa using held)
  | hit key program found =>
    refine coherent.arrive _ fun content held => ?_
    obtain rfl : program = content := by simpa using held
    exact coherent.generate_of_lookup? found
  | miss key absent => exact coherent.arrive _ (by simp)
  | join index key asks present => exact coherent.turn index (by simp)
  | start index key asks absent => exact (coherent.turn index (by simp)).start absent
  | leave index key cause waits => exact coherent.turn index (by simp)
  | receive index key result ready =>
    have before := coherent.served _ (List.mem_of_getElem? ready)
    exact coherent.turn index fun program held => before program (by simpa using held)
  | refind text key program flies stage found =>
    refine coherent.move traffic.cache.counts _ flies (by simp [stage]) (by simp) (by simp) ?_
    rintro content ⟨⟩
    exact coherent.generate_of_lookup? found
  | confirm text key flies stage absent =>
    exact coherent.move traffic.cache.counts _ flies (by simp [stage]) (fun _ => absent) (by simp) (by simp)
  | fail text key failure flies stage fails =>
    exact coherent.move _ _ flies (by simp [stage]) (by simp) (by simp) (by simp)
  | succeed text key program flies stage succeeds => exact coherent.succeed _ flies stage succeeds
  | store text key program flies stage => exact coherent.store flies stage
  | land text key result flies stage => exact coherent.land equalTexts flies stage

theorem run (equalTexts : ∀ first second, keyText first = keyText second → generate first = generate second)
    (coherent : Coherent keyText generate traffic) (run : Run keyText generate traffic after) :
    Coherent keyText generate after := by
  induction run with
  | refl => exact coherent
  | tail _ last middle => exact middle.step equalTexts last

theorem of_reachable (equalTexts : ∀ first second, keyText first = keyText second → generate first = generate second)
    (reachable : Reachable keyText generate traffic) : Coherent keyText generate traffic := by
  obtain ⟨name, run⟩ := reachable
  refine Coherent.run equalTexts ?_ run
  constructor <;> simp

/-- A step leaves every entry as it is. -/
theorem lookup?_step (coherent : Coherent keyText generate traffic) (step : Step keyText generate traffic after)
    {key : κ} {program : Shader.Program} (found : traffic.cache.lookup? key = some program) :
    after.cache.lookup? key = some program := by
  cases step with
  | store text wanted content flies stage =>
    have absent := (coherent.pending _ flies content stage).2
    change (traffic.cache.assign wanted content).lookup? key = some program
    rw [lookup?_assign absent, if_neg, found]
    rintro rfl
    rw [found] at absent
    cases absent
  | _ => exact found

theorem lookup?_run (equalTexts : ∀ first second, keyText first = keyText second → generate first = generate second)
    (coherent : Coherent keyText generate traffic) (run : Run keyText generate traffic after)
    {key : κ} {program : Shader.Program} (found : traffic.cache.lookup? key = some program) :
    after.cache.lookup? key = some program := by
  induction run with
  | refl => exact found
  | tail earlier last kept => exact (coherent.run equalTexts earlier).lookup?_step last kept

end Coherent

/-- Whatever callers and generations do, and in whatever order: an entry is the program that its descriptor makes and
    stays as it is, a descriptor that fails has none, a caller that is given a program is given that of its own
    descriptor, and no descriptor is generated twice. -/
theorem coherent_of_interleaving
    (equalTexts : ∀ first second, keyText first = keyText second → generate first = generate second)
    (reachable : Reachable keyText generate traffic) :
    (∀ entry ∈ traffic.cache.stored, generate entry.1 = .ok entry.2) ∧
    (∀ key program, traffic.cache.lookup? key = some program →
      ∀ after, Run keyText generate traffic after → after.cache.lookup? key = some program) ∧
    (∀ key failure, generate key = .error failure → traffic.cache.lookup? key = none) ∧
    (∀ caller ∈ traffic.callers, ∀ program,
      (caller.standing = .answered (.ok program) ∨ caller.standing = .looked (some program)) →
      generate caller.key = .ok program) ∧
    ∀ key, traffic.generated.count key ≤ 1 := by
  have coherent := Coherent.of_reachable equalTexts reachable
  refine ⟨coherent.stored, ?_, ?_, ?_, List.nodup_iff_count.mp coherent.once⟩
  · intro key program found after run
    exact coherent.lookup?_run equalTexts run found
  · intro key failure fails
    by_contra present
    obtain ⟨program, found⟩ := Option.ne_none_iff_exists'.mp present
    rw [coherent.generate_of_lookup? found] at fails
    cases fails
  · intro caller member program given
    exact coherent.served caller member program (.inr given)

/-- One caller leaves, and another with another descriptor is given what the first one asked for. -/
theorem coherent_of_shared_generation :
    ∃ (traffic : Traffic Gemm.Descriptor) (program : Shader.Program),
      Reachable Gemm.Descriptor.key Gemm.generate traffic ∧
      ⟨Gemm.preparedProduct, .answered (.ok program)⟩ ∈ traffic.callers ∧
      traffic.cache.lookup? Gemm.preparedProduct = none ∧ Gemm.generate Gemm.preparedProduct = .ok program ∧
      traffic.generated.count Gemm.unbiasedProduct ≤ 1 := by
  obtain ⟨program, made⟩ : ∃ program, Gemm.generate Gemm.unbiasedProduct = .ok program := ⟨_, rfl⟩
  have shared : Gemm.preparedProduct.key = Gemm.unbiasedProduct.key := rfl
  have different : ¬ Gemm.unbiasedProduct = Gemm.preparedProduct := by decide
  obtain ⟨asked, run, content, standings, idle⟩ := run_inquire Gemm.Descriptor.key Gemm.generate
    ⟨⟨"gemm", [], [], {}⟩, fun _ => .started, [], []⟩ Gemm.unbiasedProduct
  obtain ⟨both, later, joined, waiting, started⟩ := run_inquire Gemm.Descriptor.key Gemm.generate asked
    Gemm.preparedProduct
  simp [content, standings, inquire, lookup?, shared] at joined waiting
  have left : Step Gemm.Descriptor.key Gemm.generate both _ :=
    .leave both 0 Gemm.unbiasedProduct .canceled (.inl (by simp [waiting]))
  have lands : ∃ landing, (both.turn 0 Gemm.unbiasedProduct (.answered (.error .canceled))).cache.land
      Gemm.Descriptor.key Gemm.generate Gemm.unbiasedProduct.key = some landing ∧
      landing.result = .ok program ∧ landing.cache.lookup? Gemm.preparedProduct = none := by
    simp [Traffic.turn, joined, Cache.land, complete, lookup?, made, different]
  obtain ⟨landing, lands, result, absent⟩ := lands
  have ready : (both.turn 0 Gemm.unbiasedProduct (.answered (.error .canceled))).stage Gemm.unbiasedProduct.key =
      .started := started _ (idle _ rfl)
  obtain ⟨landed, last, stored, served⟩ := run_land ready lands
  have received : Step Gemm.Descriptor.key Gemm.generate landed _ :=
    .receive landed 1 Gemm.preparedProduct (.ok program)
      (by simp [served, Traffic.turn, waiting, Caller.serve, result, shared])
  have reachable : Reachable Gemm.Descriptor.key Gemm.generate
      (landed.turn 1 Gemm.preparedProduct (.answered (.ok program))) :=
    ⟨"gemm", ((run.trans later).tail left).trans last |>.tail received⟩
  have given : ⟨Gemm.preparedProduct, .answered (.ok program)⟩ ∈
      (landed.turn 1 Gemm.preparedProduct (.answered (.ok program))).callers := by
    simp [Traffic.turn, served, waiting]
  obtain ⟨-, -, -, answers, once⟩ := coherent_of_interleaving (fun _ _ => Gemm.generate_of_key) reachable
  refine ⟨_, program, reachable, given, ?_, answers _ given program (.inl rfl), once _⟩
  simpa [Traffic.turn, stored] using absent

end KernelForge.Cache
