import KernelForge.Proofs.Bundle.Index
import KernelForge.Tuning.BuiltIn

/-!
Reading back the archive of a bundle. The texts of kernels and the index never look like markers, so what is written is
what is read, in whatever order the kernels were generated, as long as the names in the manifest can stand in a marker:
a line feed in a name breaks it, and blanks at its front are lost.
-/

namespace KernelForge.Bundle

variable {device : Device} {tables : Tuning.Tables} {jobs : List Manifest.Job} {entries : List Entry}
  {identifier : String}

theorem feed_not_mem_family (family : Family) : '\n' ∉ family.name.toList := by
  have numeral := Text.feed_not_mem_natural family.code.toNat
  unfold Family.name
  rw [Nat.toString_eq_repr, Nat.toList_repr] at numeral
  split <;> simp [Text.toString_self, numeral]

/-- The program of a kernel comes back out of an archive. -/
theorem framed_of_makes {task : Task} {generated : Generated} (makes : task.Makes device tables generated) :
    Archive.Framed generated.program.source := by
  cases makes with
  | gemm _ _ => exact Gemm.Kernel.framed_source _
  | attention _ _ => exact Attention.Kernel.framed_source _

theorem framed_comment (device : Device) (single : '\n' ∉ identifier.toList) :
    Archive.Framed s!"mfagen bundle {identifier} for {device.family.name}\n" := by
  have line : s!"mfagen bundle {identifier} for {device.family.name}\n" =
      Shader.unlines [s!"mfagen bundle {identifier} for {device.family.name}"] := by
    rw [Shader.unlines, List.foldl_cons, List.foldl_nil, String.empty_append]
    rfl
  rw [line]
  apply Shader.framed_unlines
  · simp [Text.toString_self, single, feed_not_mem_family]
  · have word : Shader.initial "mfagen bundle " = some 'm' := rfl
    rw [Shader.dashless_cons]
    simp [Shader.initial_append, Text.toString_self, word]

/-- The parts of an archive that was made. -/
theorem archive_eq {archive : Archive} (written : Bundle.archive ⟨identifier, device, entries⟩ = .ok archive) :
    ∃ value, index ⟨identifier, device, entries⟩ = .ok value ∧
      archive.comment = s!"mfagen bundle {identifier} for {device.family.name}\n" ∧
      archive.members = entries.map (fun entry => ⟨entry.file, entry.generated.program.source⟩) ++
        [⟨indexFile, value.indented ++ "\n"⟩] := by
  obtain ⟨value, told, rest⟩ := bind_ok_iff.mp written
  obtain rfl := Except.ok.inj rest
  exact ⟨value, told, rfl, rfl⟩

/-- The names and texts of the members are those of the jobs, with the index behind them. -/
theorem members_of_entries (made : List.Forall₂ (IsEntry (Task.Makes device tables)) jobs entries) :
    List.Forall₂ (fun (job : Manifest.Job) (member : Archive.Member) => member.name = job.file ∧
        ∃ generated, job.task.Makes device tables generated ∧ member.text = generated.program.source) jobs
      (entries.map fun entry => ⟨entry.file, entry.generated.program.source⟩) := by
  induction made with
  | nil => exact .nil
  | cons entryOf _ ih => exact .cons ⟨entryOf.file, _, entryOf.generated, rfl⟩ ih

theorem files_of_entries (made : List.Forall₂ (IsEntry (Task.Makes device tables)) jobs entries) :
    entries.map (·.file) = jobs.map (·.file) := by
  induction made with
  | nil => rfl
  | cons entryOf _ ih => rw [List.map_cons, List.map_cons, entryOf.file, ih]

section Written

variable {archive : Archive} (made : List.Forall₂ (IsEntry (Task.Makes device tables)) jobs entries)
  (written : Bundle.archive ⟨identifier, device, entries⟩ = .ok archive)

include made written

theorem names_of_archive : archive.members.map (·.name) = jobs.map (·.file) ++ [indexFile] := by
  obtain ⟨value, -, -, members⟩ := archive_eq written
  rw [members, List.map_append, List.map_map, ← files_of_entries made]
  rfl

/-- Nothing in the archive of a bundle looks like a marker. -/
theorem wellFramed_of_archive (filed : ∀ job ∈ jobs, Manifest.IsKernelFile job.file)
    (single : '\n' ∉ identifier.toList) : archive.WellFramed := by
  obtain ⟨value, told, comment, members⟩ := archive_eq written
  have named : ∀ name ∈ archive.members.map (·.name), ' ' ∉ name.toList ∧ (Text.trim name).isEmpty = false := by
    rw [names_of_archive made written, List.forall_mem_append, List.forall_mem_map, List.forall_mem_singleton]
    refine ⟨fun job member => ?_, by decide⟩
    have file := filed job member
    exact ⟨file.blankless, file.visible⟩
  constructor
  · rw [comment]
    exact framed_comment device single
  · rw [members, List.forall_mem_append, List.forall_mem_map, List.forall_mem_singleton]
    refine ⟨fun entry among => ?_, (index_lists made filed told).2⟩
    obtain ⟨job, -, entryOf⟩ := exists_left_of_forall₂ made among
    exact framed_of_makes entryOf.generated
  · exact fun member among => (named _ (List.mem_map_of_mem among)).1
  · exact fun member among => (named _ (List.mem_map_of_mem among)).2

/-- The archive comes back if and only if markers keep the files of the jobs. -/
theorem parse_iff_kept (filed : ∀ job ∈ jobs, Manifest.IsKernelFile job.file) (single : '\n' ∉ identifier.toList) :
    Archive.parse archive.render = archive ↔ ∀ job ∈ jobs, Archive.Kept job.file := by
  have index : Archive.Kept indexFile := by decide
  rw [Archive.parse_render_iff (wellFramed_of_archive made written filed single)]
  have names : (∀ name ∈ archive.members.map (·.name), Archive.Kept name) ↔ ∀ job ∈ jobs, Archive.Kept job.file := by
    rw [names_of_archive made written, List.forall_mem_append, List.forall_mem_map, List.forall_mem_singleton]
    exact and_iff_left index
  rw [← names, List.forall_mem_map]

end Written

/-- One worker alone makes the bundle. -/
theorem build_of_makes {manifest : Manifest} (accepted : manifest.jobs = .ok jobs)
    (made : List.Forall₂ (IsEntry (Task.Makes device tables)) jobs entries) :
    (build { device, tables } manifest identifier).result = .ok ⟨identifier, device, entries⟩ := by
  have alone := generateAll_of_makes made (Generator.settled_fresh device tables) rfl rfl
  simp only [build, accepted, alone]
  rfl

/-- An archive can be made if and only if the index can name the formats of all biases. -/
theorem archive_ok_iff (made : List.Forall₂ (IsEntry (Task.Makes device tables)) jobs entries) :
    (∃ archive, Bundle.archive ⟨identifier, device, entries⟩ = .ok archive) ↔ ∀ job ∈ jobs, job.task.Named := by
  rw [← index_ok_iff made]
  constructor
  · rintro ⟨archive, written⟩
    obtain ⟨value, told, -⟩ := archive_eq written
    exact ⟨value, told⟩
  · rintro ⟨value, told⟩
    exact ⟨_, by rw [Bundle.archive, told]; rfl⟩

/-- The archive of the kernels of an accepted manifest, in whatever order their generations end. It is the one that a
    worker alone makes; it can be written if every kernel can; it has one member for each job in the order of the
    manifest, with the file of the job and the program of its kernel, and the index behind them; all its names are
    different, and the index lists the files in the same order. Splitting its text gives it back if and only if the file
    of every job is one line without blanks at its ends. -/
theorem parse_archive_iff {manifest : Manifest} (accepted : manifest.jobs = .ok jobs)
    {gemms : Cache.Traffic Gemm.Descriptor} {attentions : Cache.Traffic Attention.Descriptor}
    (gemmsReached : Cache.Reachable Gemm.Descriptor.key Gemm.generate gemms)
    (attentionsReached : Cache.Reachable Attention.Descriptor.key Attention.generate attentions)
    (finished : Places (Task.Given device tables gemms attentions) jobs (entries.map some))
    (single : '\n' ∉ identifier.toList) :
    (build { device, tables } manifest identifier).result = .ok ⟨identifier, device, entries⟩ ∧
    ((∃ archive, Bundle.archive ⟨identifier, device, entries⟩ = .ok archive) ↔ ∀ job ∈ jobs, job.task.Named) ∧
    ∀ archive, Bundle.archive ⟨identifier, device, entries⟩ = .ok archive →
      (∃ members value, index ⟨identifier, device, entries⟩ = .ok value ∧
        archive.members = members ++ [⟨indexFile, value.indented ++ "\n"⟩] ∧
        List.Forall₂ (fun (job : Manifest.Job) (member : Archive.Member) => member.name = job.file ∧
          ∃ generated, job.task.Makes device tables generated ∧ member.text = generated.program.source) jobs members ∧
        listedFiles value = some (jobs.map fun job => some (.text job.file))) ∧
      (archive.members.map (·.name)).Nodup ∧
      (Archive.parse archive.render = archive ↔ ∀ job ∈ jobs, Archive.Kept job.file) := by
  obtain ⟨filed, apart⟩ := Manifest.files_of_jobs accepted
  have made : List.Forall₂ (IsEntry (Task.Makes device tables)) jobs entries :=
    finished.forall₂.imp fun _ _ entryOf =>
      ⟨entryOf.name, entryOf.file, entryOf.generated.makes gemmsReached attentionsReached⟩
  refine ⟨build_of_makes accepted made, archive_ok_iff made, fun archive written =>
    ⟨?_, ?_, parse_iff_kept made written filed single⟩⟩
  · obtain ⟨value, told, -, members⟩ := archive_eq written
    exact ⟨_, value, told, members, members_of_entries made, (index_lists made filed told).1⟩
  · rw [names_of_archive made written]
    refine List.nodup_append.mpr ⟨apart, by simp, ?_⟩
    rintro _ member other last rfl
    obtain ⟨job, among, rfl⟩ := List.mem_map.mp member
    exact (filed job among).ne_index (List.mem_singleton.mp last)

/-- A product of small matrices of single precision. -/
def smallProduct : Gemm.Problem where
  extents := ⟨64, 64, 64⟩
  memory := ⟨.fp32, .fp32, .fp32⟩

/-- A manifest with a kernel of each sort. -/
def mixedManifest : Manifest where
  kernels :=
    [{ name := "proj", gemm := some smallProduct },
      { name := "attn", attention := some { problem := { extents := ⟨64, 64, 32⟩ }, types := [⟨.forward, true⟩] } }]

def mixedJobs : List Manifest.Job :=
  [⟨"proj", "proj.metal", .gemm smallProduct⟩,
    ⟨"attn", "attn.forward.metal", .attention { extents := ⟨64, 64, 32⟩ } ⟨.forward, true⟩⟩]

theorem parse_archive_iff_mixed : mixedManifest.jobs = .ok mixedJobs ∧ ∃ entries archive,
    (build { device := { family := .apple9 }, tables := .builtIn } mixedManifest "1.0").result =
      .ok ⟨"1.0", { family := .apple9 }, entries⟩ ∧
    Bundle.archive ⟨"1.0", { family := .apple9 }, entries⟩ = .ok archive ∧ Archive.parse archive.render = archive := by
  have projected : ∃ descriptor kernel, smallProduct.descriptor { family := .apple9 } .builtIn = .ok descriptor ∧
      Gemm.Kernel.ofDescriptor descriptor = .ok kernel := ⟨_, _, rfl, rfl⟩
  have attended : ∃ descriptor kernel,
      Attention.Problem.descriptor { extents := ⟨64, 64, 32⟩ } ⟨.forward, true⟩ { family := .apple9 } .builtIn =
        .ok descriptor ∧
      Attention.Kernel.ofDescriptor descriptor = .ok kernel := ⟨_, _, rfl, rfl⟩
  obtain ⟨gemm, gemmKernel, gemmChosen, gemmAccepted⟩ := projected
  obtain ⟨attention, attentionKernel, attentionChosen, attentionAccepted⟩ := attended
  have gemmMade : Gemm.generate gemm = .ok gemmKernel.program := by rw [Gemm.generate, gemmAccepted]
  have attentionMade : Attention.generate attention = .ok attentionKernel.program := by
    rw [Attention.generate, attentionAccepted]
  obtain ⟨gemms, gemmsReached, gemmAnswered⟩ := Cache.reachable_answered Gemm.Descriptor.key gemmMade
  obtain ⟨attentions, attentionsReached, attentionAnswered⟩ :=
    Cache.reachable_answered Attention.Descriptor.key attentionMade
  -- The second job ends first.
  have last : mixedJobs[1]? = some ⟨"attn", "attn.forward.metal", _⟩ := rfl
  have first : mixedJobs[0]? = some ⟨"proj", "proj.metal", _⟩ := rfl
  have later : Places (Task.Given { family := .apple9 } .builtIn gemms attentions) mixedJobs _ :=
    Places.start.finish last rfl (.attention attentionChosen attentionAnswered attentionAccepted)
  have finished := later.finish first rfl (.gemm gemmChosen gemmAnswered gemmAccepted)
  have named : ∀ job ∈ mixedJobs, job.task.Named := by decide
  have kept : ∀ job ∈ mixedJobs, Archive.Kept job.file := by decide
  have allowed : mixedManifest.jobs = .ok mixedJobs := rfl
  have lineFree : '\n' ∉ "1.0".toList := by decide
  obtain ⟨built, written, facts⟩ :=
    @parse_archive_iff _ _ _ [_, _] _ _ allowed _ _ gemmsReached attentionsReached finished lineFree
  obtain ⟨archive, written⟩ := written.mpr named
  exact ⟨rfl, _, archive, built, written, (facts archive written).2.2.mpr kept⟩

/-- A manifest whose only kernel has a line feed in its name. -/
def brokenManifest : Manifest where
  kernels := [{ name := "a\nb", gemm := some smallProduct }]

def brokenJobs : List Manifest.Job :=
  [⟨"a\nb", "a\nb.metal", .gemm smallProduct⟩]

/-- A line feed in a name is accepted, and what is read from the archive has no member for the kernel. -/
theorem parse_archive_lineFeed : brokenManifest.jobs = .ok brokenJobs ∧ ∃ bundle archive,
    (build { device := { family := .apple9 }, tables := .builtIn } brokenManifest "1.0").result = .ok bundle ∧
    bundle.archive = .ok archive ∧ archive.members.map (·.name) = ["a\nb.metal", "manifest.json"] ∧
    (Archive.parse archive.render).members.map (·.name) = ["manifest.json"] := by
  have chosen : ∃ descriptor kernel, smallProduct.descriptor { family := .apple9 } .builtIn = .ok descriptor ∧
      Gemm.Kernel.ofDescriptor descriptor = .ok kernel := ⟨_, _, rfl, rfl⟩
  obtain ⟨descriptor, kernel, chosen, accepted⟩ := chosen
  have lineFree : '\n' ∉ "1.0".toList := by decide
  have allowed : brokenManifest.jobs = .ok brokenJobs := rfl
  have made : List.Forall₂ (IsEntry (Task.Makes { family := .apple9 } .builtIn)) brokenJobs [⟨_, _, _⟩] :=
    .cons ⟨rfl, rfl, .gemm chosen accepted⟩ .nil
  obtain ⟨archive, written⟩ := (archive_ok_iff made).mpr (by decide)
  have names := names_of_archive made written
  have framed := wellFramed_of_archive made written (Manifest.files_of_jobs allowed).1 lineFree
  refine ⟨allowed, _, archive, build_of_makes allowed made, written, names, ?_⟩
  rw [Archive.names_parse_render framed, names]
  decide

end KernelForge.Bundle
