import KernelForge.Bundle
import KernelForge.Proofs.Cell
import KernelForge.Proofs.Text.Cut

/-!
The files of a manifest that was accepted. They are all different, none has a plain space, and each ends with the ending
of shader source, which tells it from the index of a bundle. A line feed or another blank may stand in them.
-/

namespace KernelForge.Manifest

theorem nodup_of_duplicates {words : List String} (none : duplicates words = []) : words.Nodup := by
  induction words with
  | nil => exact List.nodup_nil
  | cons word rest ih =>
    rw [duplicates] at none
    split at none
    · cases none
    · next once => exact List.nodup_cons.mpr ⟨by simpa using once, ih none⟩

/-- The ending of the files of kernels. -/
def ending : String := ".metal"

/-- The file of a kernel: something without plain spaces and the ending. -/
def IsKernelFile (file : String) : Prop :=
  ∃ stem, file = stem ++ ending ∧ ' ' ∉ stem.toList

theorem blank_not_mem_pass (pass : Attention.Pass) : ' ' ∉ pass.name.toList := by
  unfold Attention.Pass.name
  split
  · decide
  split
  · decide
  split <;> decide

theorem isKernelFile_of_entry {entry : Entry} {index : Nat} {jobs : List Job} (accepted : entry.jobs index = .ok jobs) :
    ∀ job ∈ jobs, IsKernelFile job.file := by
  unfold Entry.jobs at accepted
  split at accepted
  · cases accepted
  next named =>
    have blankless : ' ' ∉ entry.name.toList := by
      rw [Bool.not_eq_true, Bool.not_eq_false', isFileName, Bool.and_eq_true, List.all_eq_true] at named
      intro blank
      exact absurd (named.2 ' ' blank) (by decide)
    split at accepted
    · obtain rfl := Except.ok.inj accepted
      rw [List.forall_mem_singleton]
      exact ⟨entry.name, rfl, blankless⟩
    · obtain rfl := Except.ok.inj accepted
      intro job member
      obtain ⟨type, -, rfl⟩ := List.mem_map.mp member
      refine ⟨s!"{entry.name}.{type.pass.name}" ++ (if type.secondary then "" else "-primary"), rfl, ?_⟩
      have primary : ' ' ∉ (if type.secondary then "" else "-primary" : String).toList := by split <;> decide
      simp [Text.toString_self, blankless, blank_not_mem_pass, primary]
    · cases accepted

/-- The files of the kernels of a manifest. -/
theorem files_of_jobs {manifest : Manifest} {jobs : List Job} (accepted : manifest.jobs = .ok jobs) :
    (∀ job ∈ jobs, IsKernelFile job.file) ∧ (jobs.map (·.file)).Nodup := by
  unfold Manifest.jobs at accepted
  rw [bind_ok_iff] at accepted
  obtain ⟨lists, each, accepted⟩ := accepted
  dsimp only at accepted
  split at accepted
  · next none =>
    obtain rfl := Except.ok.inj accepted
    refine ⟨?_, nodup_of_duplicates none⟩
    intro job member
    obtain ⟨list, among, member⟩ := List.mem_flatten.mp member
    obtain ⟨⟨entry, index⟩, -, read⟩ := exists_left_of_forall₂ (forall₂_of_mapM each) among
    exact isKernelFile_of_entry read job member
  · cases accepted

/-- The index has a name of its own. -/
theorem IsKernelFile.ne_index {file : String} (kernel : IsKernelFile file) : file ≠ Bundle.indexFile := by
  obtain ⟨stem, rfl, -⟩ := kernel
  intro same
  have last := congrArg (fun text : String => text.toList.getLast?) same
  revert last
  have ends : (stem ++ ending).toList.getLast? = some 'l' := by
    have shape : ending.toList = ['.', 'm', 'e', 't', 'a', 'l'] := rfl
    rw [String.toList_append, shape]
    simp
  simp only [ends]
  decide

theorem IsKernelFile.blankless {file : String} (kernel : IsKernelFile file) : ' ' ∉ file.toList := by
  obtain ⟨stem, rfl, blankless⟩ := kernel
  rw [String.toList_append, List.mem_append, not_or]
  exact ⟨blankless, by decide⟩

theorem mem_dropWhile_of_not {characters : List Char} {character : Char} (member : character ∈ characters)
    (visible : Text.isBlank character = false) : character ∈ characters.dropWhile Text.isBlank := by
  induction characters with
  | nil => cases member
  | cons first rest ih =>
    by_cases blank : Text.isBlank first = true
    · rw [List.dropWhile_cons_of_pos blank]
      rcases List.mem_cons.mp member with rfl | later
      · rw [blank] at visible
        cases visible
      · exact ih later
    · rwa [List.dropWhile_cons_of_neg blank]

/-- Trimming leaves something of the file of a kernel. -/
theorem IsKernelFile.visible {file : String} (kernel : IsKernelFile file) : (Text.trim file).isEmpty = false := by
  obtain ⟨stem, rfl, -⟩ := kernel
  have letter : 'm' ∈ (stem ++ ending).toList := by
    rw [String.toList_append, List.mem_append]
    exact .inr (by decide)
  have kept : 'm' ∈ Text.trimChars (stem ++ ending).toList := by
    rw [Text.trimChars, List.mem_reverse]
    exact mem_dropWhile_of_not (List.mem_reverse.mpr (mem_dropWhile_of_not letter (by decide))) (by decide)
  cases trimmed : Text.trimChars (stem ++ ending).toList with
  | nil =>
    rw [trimmed] at kept
    cases kept
  | cons first rest =>
    rw [Text.trim, trimmed]
    simp

theorem IsKernelFile.isEmpty {file : String} (kernel : IsKernelFile file) : file.isEmpty = false := by
  rw [String.isEmpty_eq_false_iff]
  rintro rfl
  exact absurd kernel.visible (by decide)

end KernelForge.Manifest
