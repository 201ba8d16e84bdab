import KernelForge.Generator
import KernelForge.Proofs.Attention.Emission
import KernelForge.Proofs.Cache.Coherence

/-!
The listing of remembered programs. A memory hands out its descriptors in any order, and sorting them by their keys
leaves open in which order those with one key come. The listing tells a program by its kind and key, and descriptors
with one key have one program, so nothing of that order is left in it.
-/

namespace KernelForge

namespace Cache

variable {κ : Type} [DecidableEq κ] {keyText : κ → String} {generate : κ → Except Failure Shader.Program}
  {traffic after : Traffic κ}

/-- The descriptors that have a program. -/
def known (cache : Cache κ) : List κ :=
  cache.stored.map Prod.fst

theorem lookup?_eq_none {cache : Cache κ} {key : κ} : cache.lookup? key = none ↔ key ∉ cache.known := by
  rw [lookup?, Option.map_eq_none_iff, List.find?_eq_none, known, List.mem_map]
  constructor
  · rintro absent ⟨entry, stored, rfl⟩
    exact absent entry stored (by simp)
  · intro absent entry stored same
    exact absent ⟨entry, stored, by simpa using same⟩

/-- A memory is a map: a step stores no descriptor twice. -/
theorem nodup_step (coherent : Coherent keyText generate traffic) (step : Step keyText generate traffic after)
    (once : traffic.cache.known.Nodup) : after.cache.known.Nodup := by
  cases step with
  | store text key program flies stage =>
    have absent := (coherent.pending _ flies program stage).2
    change (traffic.cache.assign key program).known.Nodup
    simp only [known, assign, absent, if_pos, List.map_append, List.map_cons, List.map_nil]
    refine List.nodup_append.mpr ⟨once, by simp, ?_⟩
    rintro other member _ last rfl
    rw [List.mem_singleton] at last
    exact lookup?_eq_none.mp absent (last ▸ member)
  | _ => exact once

theorem nodup_run (equalTexts : ∀ first second, keyText first = keyText second → generate first = generate second)
    (coherent : Coherent keyText generate traffic) (run : Run keyText generate traffic after)
    (once : traffic.cache.known.Nodup) : after.cache.known.Nodup := by
  induction run with
  | refl => exact once
  | tail earlier last kept => exact nodup_step (coherent.run equalTexts earlier) last kept

/-- A memory whose programs are those that its descriptors make, each stored once. -/
structure Sound (generate : κ → Except Failure Shader.Program) (cache : Cache κ) : Prop where
  made : ∀ entry ∈ cache.stored, generate entry.1 = .ok entry.2
  once : cache.known.Nodup

theorem sound_of_reachable
    (equalTexts : ∀ first second, keyText first = keyText second → generate first = generate second)
    (reachable : Reachable keyText generate traffic) : Sound generate traffic.cache := by
  have coherent := Coherent.of_reachable equalTexts reachable
  obtain ⟨name, run⟩ := reachable
  refine ⟨coherent.stored, nodup_run equalTexts ?_ run List.nodup_nil⟩
  exact Coherent.of_reachable equalTexts ⟨name, .refl⟩

/-- What a memory has for a known descriptor is what the descriptor makes. -/
theorem Sound.lookup? {cache : Cache κ} (sound : Sound generate cache) {key : κ} (member : key ∈ cache.known) :
    cache.lookup? key = (generate key).toOption := by
  cases found : cache.lookup? key with
  | none => exact absurd member (lookup?_eq_none.mp found)
  | some program =>
    rw [sound.made _ (mem_of_lookup? found)]
    rfl

theorem flights_complete (cache : Cache κ) (key : κ) :
    (cache.complete keyText generate key).cache.flights = cache.flights := by
  unfold complete
  split
  · rfl
  · split <;> rfl

/-- A caller that asks and waits while nobody else moves. -/
theorem run_get (idle : traffic.cache.flights = []) (key : κ) :
    ∃ after, Run keyText generate traffic after ∧
      after.cache = (traffic.cache.get keyText generate key).cache ∧ after.cache.flights = [] := by
  cases found : traffic.cache.lookup? key with
  | some program =>
    refine ⟨_, .single (.hit traffic key program found), ?_, idle⟩
    simp [get, inquire, found]
  | none =>
    have asks : ∃ asked, Run keyText generate traffic asked ∧
        asked.cache = (traffic.cache.inquire keyText key).2 ∧ asked.stage (keyText key) = .started := by
      refine ⟨_, .tail (.single (.miss traffic key found)) (.start _ traffic.callers.length key (by simp) ?_), ?_, ?_⟩
      · intro flight member
        simp [idle] at member
      · simp [inquire, found, idle]
      · simp [Traffic.move]
    obtain ⟨asked, run, content, started⟩ := asks
    have lands : asked.cache.land keyText generate (keyText key) =
        some (traffic.cache.get keyText generate key) := by
      rw [content]
      simp [get, inquire, found, idle, land]
    obtain ⟨landed, later, same, -⟩ := run_land started lands
    refine ⟨landed, run.trans later, same, ?_⟩
    rw [same]
    simp [get, inquire, found, idle, land, flights_complete]

/-- A memory after callers that ask one after the other. -/
def askedFor (keyText : κ → String) (generate : κ → Except Failure Shader.Program) (cache : Cache κ) (keys : List κ) :
    Cache κ :=
  keys.foldl (fun cache key => (cache.get keyText generate key).cache) cache

theorem reachable_askedFor (keyText : κ → String) (generate : κ → Except Failure Shader.Program) (name : String)
    (keys : List κ) :
    ∃ traffic, Reachable keyText generate traffic ∧ traffic.cache = askedFor keyText generate { name } keys := by
  have after : ∀ traffic : Traffic κ, traffic.cache.flights = [] → ∃ after, Run keyText generate traffic after ∧
      after.cache = askedFor keyText generate traffic.cache keys := by
    induction keys with
    | nil => exact fun traffic _ => ⟨traffic, .refl, rfl⟩
    | cons key rest ih =>
      intro traffic idle
      obtain ⟨middle, run, content, still⟩ := @run_get _ _ keyText generate _ idle key
      obtain ⟨after, later, same⟩ := ih middle still
      exact ⟨after, run.trans later, by rw [same, content, askedFor, askedFor, List.foldl_cons]⟩
  obtain ⟨traffic, run, same⟩ := after ⟨⟨name, [], [], {}⟩, fun _ => .started, [], []⟩ rfl
  exact ⟨traffic, ⟨name, run⟩, same⟩

/-- Descriptors that make programs are known afterwards, in the order in which they were asked for. -/
theorem known_askedFor {cache : Cache κ} (idle : cache.flights = []) {keys : List κ}
    (makes : ∀ key ∈ keys, ∃ program, generate key = .ok program) (once : (cache.known ++ keys).Nodup) :
    (askedFor keyText generate cache keys).known = cache.known ++ keys := by
  induction keys generalizing cache with
  | nil => simp [askedFor]
  | cons key rest ih =>
    obtain ⟨program, made⟩ := makes key (by simp)
    have absent : cache.lookup? key = none := by
      rw [lookup?_eq_none]
      exact fun member => (List.nodup_append.mp once).2.2 key member key (by simp) rfl
    have content : (cache.get keyText generate key).cache.known = cache.known ++ [key] ∧
        (cache.get keyText generate key).cache.flights = [] := by
      have missing : ∀ flights counts, ({ cache with flights, counts } : Cache κ).lookup? key = none :=
        fun _ _ => absent
      simp [get, inquire, absent, idle, land, complete, missing, made, known]
    rw [askedFor, List.foldl_cons]
    refine (ih content.2 (fun later member => makes later (by simp [member])) ?_).trans ?_
    · rwa [content.1, List.append_assoc]
    · rw [content.1, List.append_assoc]
      rfl

end Cache

namespace Generator

section Memory

variable {κ : Type} [DecidableEq κ]

/-- The listing of one memory, with its descriptors in a given order. -/
def listingBy (kind : KernelKind) (keyText : κ → String) (cache : Cache κ) (keys : List κ) : List CachedKernel :=
  keys.filterMap fun key => (cache.lookup? key).map fun program => ⟨kind, keyText key, program⟩

/-- What is listed of a stored program. -/
def entry (kind : KernelKind) (keyText : κ → String) (stored : κ × Shader.Program) : CachedKernel :=
  ⟨kind, keyText stored.1, stored.2⟩

variable {kind : KernelKind} {keyText : κ → String} {generate : κ → Except Failure Shader.Program} {cache : Cache κ}

omit [DecidableEq κ] in
/-- What is listed of a memory is told by the descriptors that it knows. -/
theorem map_entry (sound : Cache.Sound generate cache) : cache.stored.map (entry kind keyText) =
    cache.known.filterMap fun key => (generate key).toOption.map fun program => ⟨kind, keyText key, program⟩ := by
  rw [Cache.known, List.filterMap_map, ← List.filterMap_eq_map]
  apply List.filterMap_congr
  intro stored member
  simp only [Function.comp_apply, sound.made stored member]
  rfl

/-- In any order, the listing has one entry for each stored program. -/
theorem listingBy_perm (sound : Cache.Sound generate cache) {keys : List κ} (order : keys.Perm cache.known) :
    (listingBy kind keyText cache keys).Perm (cache.stored.map (entry kind keyText)) := by
  rw [map_entry sound]
  refine (order.filterMap _).trans (.of_eq (List.filterMap_congr fun key member => ?_))
  rw [sound.lookup? member]

omit [DecidableEq κ] in
/-- Two memories that know the same descriptors have the same programs. -/
theorem map_entry_perm {other : Cache κ} (sound : Cache.Sound generate cache) (alsoSound : Cache.Sound generate other)
    (same : ∀ key, key ∈ cache.known ↔ key ∈ other.known) :
    (cache.stored.map (entry kind keyText)).Perm (other.stored.map (entry kind keyText)) := by
  rw [map_entry sound, map_entry alsoSound]
  exact ((List.perm_ext_iff_of_nodup sound.once alsoSound.once).mpr same).filterMap _

end Memory

/-- All remembered programs, with the descriptors of each memory in a given order. -/
def cachedBy (generator : Generator) (gemms : List Gemm.Descriptor) (attentions : List Attention.Descriptor) :
    List CachedKernel :=
  (listingBy .gemm Gemm.Descriptor.key generator.gemms gemms ++
    listingBy .attention Attention.Descriptor.key generator.attentions attentions).mergeSort listedBefore

/-- What is listed of all stored programs, in the order of their arrival. -/
def entries (generator : Generator) : List CachedKernel :=
  generator.gemms.stored.map (entry .gemm Gemm.Descriptor.key) ++
    generator.attentions.stored.map (entry .attention Attention.Descriptor.key)

/-- Both memories came about from empty ones, whatever callers and generations did. -/
structure Reached (generator : Generator) : Prop where
  gemms : ∃ traffic, Cache.Reachable Gemm.Descriptor.key Gemm.generate traffic ∧ traffic.cache = generator.gemms
  attentions : ∃ traffic,
    Cache.Reachable Attention.Descriptor.key Attention.generate traffic ∧ traffic.cache = generator.attentions

/-- Both memories have the programs that their descriptors make. -/
structure Sound (generator : Generator) : Prop where
  gemms : Cache.Sound Gemm.generate generator.gemms
  attentions : Cache.Sound Attention.generate generator.attentions

theorem Reached.sound {generator : Generator} (reached : generator.Reached) : generator.Sound := by
  obtain ⟨⟨gemms, reachable, same⟩, attentions, alsoReachable, alsoSame⟩ := reached
  constructor
  · rw [← same]
    exact Cache.sound_of_reachable (fun _ _ => Gemm.generate_of_key) reachable
  · rw [← alsoSame]
    exact Cache.sound_of_reachable (fun _ _ => Attention.generate_of_key) alsoReachable

/-! ### Order -/

/-- By the names of the kinds, then by keys. -/
def Listed (first second : CachedKernel) : Prop :=
  first.kind.name < second.kind.name ∨ first.kind = second.kind ∧ first.key ≤ second.key

theorem listed_iff (first second : CachedKernel) : listedBefore first second = true ↔ Listed first second := by
  unfold listedBefore Listed
  by_cases same : first.kind = second.kind
  · simp [same]
  · have apart : first.kind.name ≤ second.kind.name ↔ first.kind.name < second.kind.name := by
      cases kind : first.kind <;> cases other : second.kind
      all_goals first
        | exact absurd (kind.trans other.symm) same
        | decide
    simp [same, apart]

theorem Listed.trans {first second third : CachedKernel} (earlier : Listed first second)
    (later : Listed second third) : Listed first third := by
  rcases earlier with earlier | ⟨same, earlier⟩ <;> rcases later with later | ⟨alsoSame, later⟩
  · exact .inl (String.lt_trans earlier later)
  · exact .inl (alsoSame ▸ earlier)
  · exact .inl (same ▸ later)
  · exact .inr ⟨same.trans alsoSame, String.le_trans earlier later⟩

theorem listed_total (first second : CachedKernel) : Listed first second ∨ Listed second first := by
  by_cases same : first.kind = second.kind
  · rcases String.le_total first.key second.key with before | before
    · exact .inl (.inr ⟨same, before⟩)
    · exact .inr (.inr ⟨same.symm, before⟩)
  · have apart : first.kind.name < second.kind.name ∨ second.kind.name < first.kind.name := by
      cases kind : first.kind <;> cases other : second.kind
      all_goals first
        | exact absurd (kind.trans other.symm) same
        | decide
    exact apart.imp .inl .inl

/-- Programs that neither kind nor key tells apart. -/
theorem same_of_listed {first second : CachedKernel} (earlier : Listed first second) (later : Listed second first) :
    first.kind = second.kind ∧ first.key = second.key := by
  rcases earlier with earlier | ⟨same, earlier⟩ <;> rcases later with later | ⟨alsoSame, later⟩
  · exact absurd later (String.lt_asymm earlier)
  · rw [alsoSame] at earlier
    exact absurd earlier (String.lt_irrefl _)
  · rw [same] at later
    exact absurd later (String.lt_irrefl _)
  · exact ⟨same, String.le_antisymm earlier later⟩

/-- What is listed at all: a kernel of its kind and key makes its program. -/
def Makes (listed : CachedKernel) : Prop :=
  (∃ descriptor, listed.kind = .gemm ∧ listed.key = Gemm.Descriptor.key descriptor ∧
    Gemm.generate descriptor = .ok listed.program) ∨
  ∃ descriptor, listed.kind = .attention ∧ listed.key = Attention.Descriptor.key descriptor ∧
    Attention.generate descriptor = .ok listed.program

theorem makes_of_mem {generator : Generator} (sound : generator.Sound) {listed : CachedKernel}
    (member : listed ∈ generator.entries) : Makes listed := by
  rcases List.mem_append.mp member with gemm | attention
  · obtain ⟨stored, among, rfl⟩ := List.mem_map.mp gemm
    exact .inl ⟨stored.1, rfl, rfl, sound.gemms.made stored among⟩
  · obtain ⟨stored, among, rfl⟩ := List.mem_map.mp attention
    exact .inr ⟨stored.1, rfl, rfl, sound.attentions.made stored among⟩

/-- Kind and key determine what is listed, as descriptors with one key make one program. -/
theorem eq_of_makes {first second : CachedKernel} (made : Makes first) (alsoMade : Makes second)
    (kinds : first.kind = second.kind) (keys : first.key = second.key) : first = second := by
  have programs : first.program = second.program := by
    rcases made with ⟨descriptor, gemm, keyed, makes⟩ | ⟨descriptor, attention, keyed, makes⟩ <;>
      rcases alsoMade with ⟨other, alsoGemm, alsoKeyed, alsoMakes⟩ | ⟨other, alsoAttention, alsoKeyed, alsoMakes⟩
    · rw [Gemm.generate_of_key (keyed.symm.trans (keys.trans alsoKeyed)), alsoMakes] at makes
      exact (Except.ok.inj makes).symm
    · cases gemm.symm.trans (kinds.trans alsoAttention)
    · cases attention.symm.trans (kinds.trans alsoGemm)
    · rw [Attention.generate_of_key (keyed.symm.trans (keys.trans alsoKeyed)), alsoMakes] at makes
      exact (Except.ok.inj makes).symm
  cases first
  cases second
  cases kinds
  cases keys
  cases programs
  rfl

theorem cachedBy_perm {generator : Generator} (sound : generator.Sound) {gemms : List Gemm.Descriptor}
    {attentions : List Attention.Descriptor} (gemmOrder : gemms.Perm generator.gemms.known)
    (attentionOrder : attentions.Perm generator.attentions.known) :
    (generator.cachedBy gemms attentions).Perm generator.entries :=
  (List.mergeSort_perm _ _).trans
    ((listingBy_perm sound.gemms gemmOrder).append (listingBy_perm sound.attentions attentionOrder))

theorem cachedBy_pairwise (generator : Generator) (gemms : List Gemm.Descriptor)
    (attentions : List Attention.Descriptor) : (generator.cachedBy gemms attentions).Pairwise Listed := by
  have trans : ∀ first second third, listedBefore first second = true → listedBefore second third = true →
      listedBefore first third = true := by
    intro first second third
    simpa only [listed_iff] using Listed.trans
  have total : ∀ first second, (listedBefore first second || listedBefore second first) = true := by
    intro first second
    simpa only [Bool.or_eq_true, listed_iff] using listed_total first second
  exact (List.pairwise_mergeSort trans total _).imp fun before => (listed_iff _ _).mp before

/-- The listing is a function of what was generated. Two generators that know the same descriptors list the same
    programs, in whatever order their memories hand out their descriptors; sorting them by their keys is one such order,
    however it places those with one key. The list is sorted by kind and key, and each stored descriptor has one entry
    in it. -/
theorem cached_of_known {generator other : Generator} (reached : generator.Reached) (alsoReached : other.Reached)
    (sameGemms : ∀ descriptor, descriptor ∈ generator.gemms.known ↔ descriptor ∈ other.gemms.known)
    (sameAttentions : ∀ descriptor, descriptor ∈ generator.attentions.known ↔ descriptor ∈ other.attentions.known)
    {gemms : List Gemm.Descriptor} {attentions : List Attention.Descriptor}
    (gemmOrder : gemms.Perm other.gemms.known) (attentionOrder : attentions.Perm other.attentions.known) :
    other.cachedBy gemms attentions = generator.cached ∧ generator.cached.Pairwise Listed ∧
      (generator.gemms.known.Nodup ∧ generator.attentions.known.Nodup) ∧
      generator.cached.Perm generator.entries := by
  have sound := reached.sound
  have alsoSound := alsoReached.sound
  have entries : generator.entries.Perm other.entries :=
    (map_entry_perm sound.gemms alsoSound.gemms sameGemms).append
      (map_entry_perm sound.attentions alsoSound.attentions sameAttentions)
  have listed : generator.cached.Perm generator.entries :=
    cachedBy_perm sound (List.mergeSort_perm _ _) (List.mergeSort_perm _ _)
  have sorted : generator.cached.Pairwise Listed := cachedBy_pairwise generator _ _
  have alsoListed : (other.cachedBy gemms attentions).Perm generator.entries :=
    (cachedBy_perm alsoSound gemmOrder attentionOrder).trans entries.symm
  refine ⟨?_, sorted, ⟨sound.gemms.once, sound.attentions.once⟩, listed⟩
  -- Entries with one kind and key are equal, so it does not show in which order they were placed.
  refine List.Perm.eq_of_pairwise ?_ (cachedBy_pairwise other gemms attentions) sorted (alsoListed.trans listed.symm)
  intro first second member alsoMember earlier later
  obtain ⟨kinds, keys⟩ := same_of_listed earlier later
  exact eq_of_makes (makes_of_mem sound (alsoListed.subset member)) (makes_of_mem sound (listed.subset alsoMember)) kinds
    keys

/-- A generator whose memories were asked for descriptors, one after the other. -/
def askedFor (generator : Generator) (gemms : List Gemm.Descriptor) (attentions : List Attention.Descriptor) :
    Generator :=
  { generator with
    gemms := Cache.askedFor Gemm.Descriptor.key Gemm.generate { name := KernelKind.gemm.name } gemms
    attentions :=
      Cache.askedFor Attention.Descriptor.key Attention.generate { name := KernelKind.attention.name } attentions }

theorem reached_askedFor (generator : Generator) (gemms : List Gemm.Descriptor)
    (attentions : List Attention.Descriptor) : (generator.askedFor gemms attentions).Reached :=
  ⟨Cache.reachable_askedFor _ _ _ _, Cache.reachable_askedFor _ _ _ _⟩

/-- Two generators with two pairs of descriptors that share their keys, asked for in opposite orders. -/
theorem cached_of_known_sharedKeys :
    let generator : Generator := { device := default, tables := default }
    let first := generator.askedFor [Gemm.unbiasedProduct, Gemm.preparedProduct]
      [Attention.singleForward, Attention.preparedForward]
    let second := generator.askedFor [Gemm.preparedProduct, Gemm.unbiasedProduct]
      [Attention.preparedForward, Attention.singleForward]
    second.cachedBy second.gemms.known.reverse second.attentions.known = first.cached ∧
      first.cached.Pairwise Listed ∧ (first.gemms.known.Nodup ∧ first.attentions.known.Nodup) ∧
      first.cached.Perm first.entries ∧ first.cached.length = 4 := by
  intro generator first second
  have gemmMakes : ∀ key ∈ [Gemm.unbiasedProduct, Gemm.preparedProduct],
      ∃ program, Gemm.generate key = .ok program := by
    simp only [List.forall_mem_cons]
    exact ⟨⟨_, rfl⟩, ⟨_, rfl⟩, by simp⟩
  have attentionMakes : ∀ key ∈ [Attention.singleForward, Attention.preparedForward],
      ∃ program, Attention.generate key = .ok program := by
    simp only [List.forall_mem_cons]
    exact ⟨⟨_, rfl⟩, ⟨_, rfl⟩, by simp⟩
  have firstGemms : first.gemms.known = [Gemm.unbiasedProduct, Gemm.preparedProduct] :=
    Cache.known_askedFor rfl gemmMakes (by decide)
  have secondGemms : second.gemms.known = [Gemm.preparedProduct, Gemm.unbiasedProduct] :=
    Cache.known_askedFor rfl (fun key member => gemmMakes key (by simpa [or_comm] using member)) (by decide)
  have firstAttentions : first.attentions.known = [Attention.singleForward, Attention.preparedForward] :=
    Cache.known_askedFor rfl attentionMakes (by decide)
  have secondAttentions : second.attentions.known = [Attention.preparedForward, Attention.singleForward] :=
    Cache.known_askedFor rfl (fun key member => attentionMakes key (by simpa [or_comm] using member)) (by decide)
  have sameGemms : ∀ key, key ∈ first.gemms.known ↔ key ∈ second.gemms.known := by
    simp [firstGemms, secondGemms, or_comm]
  have sameAttentions : ∀ key, key ∈ first.attentions.known ↔ key ∈ second.attentions.known := by
    simp [firstAttentions, secondAttentions, or_comm]
  obtain ⟨same, sorted, once, listed⟩ := cached_of_known (generator.reached_askedFor _ _)
    (generator.reached_askedFor _ _) sameGemms sameAttentions (List.reverse_perm second.gemms.known)
    (List.Perm.refl second.attentions.known)
  refine ⟨same, sorted, once, listed, ?_⟩
  have gemms := congrArg List.length firstGemms
  have attentions := congrArg List.length firstAttentions
  simp only [Cache.known, List.length_map, List.length_cons, List.length_nil] at gemms attentions
  rw [listed.length_eq, entries, List.length_append, List.length_map, List.length_map, gemms, attentions]

end Generator

end KernelForge
