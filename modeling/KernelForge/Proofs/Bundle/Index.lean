import KernelForge.Proofs.Attention.Document
import KernelForge.Proofs.Bundle.Files
import KernelForge.Proofs.Bundle.Results
import KernelForge.Proofs.Bundle.Source
import KernelForge.Proofs.Gemm.Document
import KernelForge.Proofs.Gemm.Kernel
import KernelForge.Proofs.Json.Layout

/-!
The archive of a bundle, read back.
-/

namespace KernelForge

open Json (Value membersOneLine membersOneLine_append)

/-! ### Documents -/

namespace Json

/-- An object starts with a brace. -/
theorem exists_toList_object (layout : Layout) (depth : Nat) (members : List (String × Value)) :
    ∃ rest, ((Value.object members).write layout depth).toList = '\x7b' :: rest := by
  have brace (text : String) : ∃ rest, ("\x7b" ++ text).toList = '\x7b' :: rest := ⟨text.toList, String.toList_append⟩
  cases members with
  | nil => exact ⟨_, by rw [Value.write]; rfl⟩
  | cons member members =>
    obtain ⟨key, value⟩ := member
    rw [Value.write]
    simpa only [String.append_assoc] using brace _

theorem oneLine_natural (value : Nat) : (Value.natural value).OneLine := by
  rw [Value.natural, Value.OneLine]
  exact Text.feed_not_mem_natural value

theorem oneLine_integer (value : Int) : (Value.integer value).OneLine := by
  rw [Value.integer, Value.OneLine]
  exact Text.feed_not_mem_integer value

theorem membersOneLine_member {key : String} {value : Value} : membersOneLine (member key value) ↔ value.OneLine := by
  rw [member, membersOneLine, membersOneLine, and_true]

theorem membersOneLine_textUnlessEmpty (key value : String) : membersOneLine (textUnlessEmpty key value) := by
  unfold textUnlessEmpty
  split
  · trivial
  · exact membersOneLine_member.mpr trivial

theorem membersOneLine_flagIfSet (key : String) (value : Bool) : membersOneLine (flagIfSet key value) := by
  unfold flagIfSet
  split
  · exact membersOneLine_member.mpr trivial
  · trivial

theorem membersOneLine_naturalUnlessZero (key : String) (value : Nat) : membersOneLine (naturalUnlessZero key value) := by
  unfold naturalUnlessZero
  split
  · trivial
  · exact membersOneLine_member.mpr (oneLine_natural value)

theorem membersOneLine_optionalObject (dialect : Dialect) (key : String) {members : List (String × Value)}
    (single : membersOneLine members) : membersOneLine (optionalObject dialect key members) := by
  unfold optionalObject
  split
  · trivial
  · exact membersOneLine_member.mpr single

/-- Every number has a text in the full dialect, on one line. -/
theorem single_full (number : Float32) : ∃ value, single .full number = .ok value ∧ value.OneLine := by
  unfold single
  cases written : Text.shortestSingle? number with
  | some text => exact ⟨_, rfl, Text.feed_not_mem_shortestSingle written⟩
  | none =>
    refine ⟨_, rfl, ?_⟩
    rw [Value.OneLine, nonFiniteName]
    split
    · decide
    · split <;> decide

end Json

theorem Device.oneLine_json (device : Device) : device.json.OneLine := by
  have cores : membersOneLine (if device.cores = 0 then [] else
      Json.member "core_count" (.integer device.cores.toInt)) := by
    split
    · trivial
    · exact Json.membersOneLine_member.mpr (Json.oneLine_integer _)
  rw [json, Value.OneLine]
  simp only [membersOneLine_append, Json.membersOneLine_textUnlessEmpty, Json.membersOneLine_flagIfSet,
    Json.membersOneLine_member, cores, Value.OneLine, and_self]

theorem Shader.BoundConstant.json_full (bound : BoundConstant) :
    ∃ value, bound.json .full = .ok value ∧ value.OneLine := by
  have content : ∀ value : Value, value.OneLine →
      (Value.object (bound.constant.members ++ [("value", value)])).OneLine := by
    intro value single
    rw [Value.OneLine, membersOneLine_append]
    simp only [FunctionConstant.members, membersOneLine, Json.oneLine_natural, Value.OneLine, single, and_self]
  unfold json
  cases bound.content with
  | uint value => exact ⟨_, rfl, content _ (Json.oneLine_natural _)⟩
  | bool value => exact ⟨_, rfl, content _ trivial⟩
  | float value =>
    obtain ⟨text, written, single⟩ := Json.single_full value
    refine ⟨_, ?_, content text single⟩
    simp only [written]
    rfl

namespace Gemm

theorem PerOperand.oneLine_written (precisions : PerOperand Precision) : membersOneLine precisions.written := by
  simp only [written, membersOneLine, Value.OneLine, and_self]

theorem Bias.oneLine_written (bias : Bias) : membersOneLine bias.written := by
  rw [written, membersOneLine_append]
  constructor
  · split
    · trivial
    · exact Json.membersOneLine_member.mpr trivial
  · split
    · trivial
    · exact Json.membersOneLine_member.mpr trivial

theorem Descriptor.oneLine_written (descriptor : Descriptor) (dialect : Json.Dialect) :
    membersOneLine (descriptor.written dialect) := by
  have strides : membersOneLine
      (strideMembers descriptor.leading.a.toNat descriptor.leading.b.toNat descriptor.leading.c.toNat) := by
    simp only [strideMembers, membersOneLine_append, Json.membersOneLine_naturalUnlessZero, and_self]
  simp only [written, membersOneLine_append, Json.membersOneLine_member, Json.membersOneLine_flagIfSet, Value.OneLine,
    membersOneLine, Json.oneLine_natural, PerOperand.oneLine_written, Transpose.members,
    Json.membersOneLine_optionalObject _ _ strides, Json.membersOneLine_optionalObject _ _ descriptor.bias.oneLine_written,
    and_self]

theorem Accepted.valid {descriptor : Descriptor} {kernel : Kernel} (accepted : Accepted descriptor kernel) :
    descriptor.memory.Valid ∧ descriptor.register.Valid := by
  have both : ∀ operand,
      (descriptor.memory.get operand).isValid ∧ (descriptor.register.get operand).isValid := by
    intro operand
    have pair := mapError_ok.mp (accepted.pair operand)
    unfold Precision.checkPair at pair
    split at pair
    · cases pair
    · next valid => simpa using valid
  exact ⟨fun operand => (both operand).1, fun operand => (both operand).2⟩

theorem Descriptor.json_ok_iff {descriptor : Descriptor} {kernel : Kernel}
    (accepted : Kernel.ofDescriptor descriptor = .ok kernel) (dialect : Json.Dialect) :
    (∃ value, descriptor.json dialect = .ok value) ↔ descriptor.bias.Named := by
  obtain ⟨memory, register⟩ := (accepted_of_ofDescriptor accepted).valid
  constructor
  · rintro ⟨value, written⟩
    unfold json at written
    simp only [bind_ok_iff] at written
    obtain ⟨_, _, _, _, members, named, _⟩ := written
    exact Bias.named_of_members named
  · exact fun bias => ⟨_, Descriptor.json_eq ⟨memory, register, bias⟩ dialect⟩

theorem bias_of_descriptor {problem : Problem} {device : Device} {tables : Tuning.Tables} {descriptor : Descriptor}
    (chosen : problem.descriptor device tables = .ok descriptor) : descriptor.bias = problem.kernelBias := by
  unfold Problem.descriptor at chosen
  rw [bind_ok_iff] at chosen
  obtain ⟨_, -, chosen⟩ := chosen
  simp only [refuse_ok_iff] at chosen
  obtain ⟨-, chosen⟩ := chosen
  split at chosen
  · obtain rfl := Except.ok.inj chosen
    rfl
  split at chosen
  · obtain rfl := Except.ok.inj chosen
    rfl
  split at chosen <;> obtain rfl := Except.ok.inj chosen <;> rfl

end Gemm

namespace Attention

theorem Descriptor.oneLine_written (descriptor : Descriptor) : membersOneLine descriptor.written := by
  have named (precisions : Precisions) : precisions.json.OneLine := by
    rw [Precisions.json, Value.OneLine]
    induction precisions.named with
    | nil => trivial
    | cons first rest ih => exact ⟨trivial, ih⟩
  simp only [written, membersOneLine_append, Json.membersOneLine_member, Json.membersOneLine_flagIfSet, named,
    Value.OneLine, membersOneLine, Json.oneLine_natural, KernelType.written, and_self]

end Attention

/-! ### Kernels and their index -/

/-- A task whose kernel can be written: a product with a bias has a name for its format, or none. -/
def Task.Named : Task → Prop
  | .gemm problem => problem.kernelBias.Named
  | .attention _ _ => True

instance : (task : Task) → Decidable task.Named
  | .gemm problem => inferInstanceAs (Decidable problem.kernelBias.Named)
  | .attention _ _ => .isTrue trivial

section Kernel

variable {device : Device} {tables : Tuning.Tables} {task : Task} {generated : Generated}

theorem Task.Makes.json_ok_iff (makes : task.Makes device tables generated) :
    (∃ value, generated.descriptor.json .full = .ok value) ↔ task.Named := by
  cases makes with
  | gemm chosen accepted =>
    rw [Named, ← Gemm.bias_of_descriptor chosen]
    exact Gemm.Descriptor.json_ok_iff accepted .full
  | attention chosen accepted =>
    have written := Attention.Descriptor.json_eq (Attention.made_of_ofDescriptor accepted).valid
    exact ⟨fun _ => trivial, fun _ => ⟨_, written⟩⟩

theorem Task.Makes.oneLine_json (makes : task.Makes device tables generated) {value : Value}
    (written : generated.descriptor.json .full = .ok value) : value.OneLine := by
  cases makes with
  | gemm chosen accepted =>
    have named := (Gemm.Descriptor.json_ok_iff accepted .full).mp ⟨value, written⟩
    obtain ⟨memory, register⟩ := (Gemm.accepted_of_ofDescriptor accepted).valid
    have same := Gemm.Descriptor.json_eq ⟨memory, register, named⟩ .full
    obtain rfl := Except.ok.inj (same.symm.trans written)
    exact Gemm.Descriptor.oneLine_written _ .full
  | attention chosen accepted =>
    have same := Attention.Descriptor.json_eq (Attention.made_of_ofDescriptor accepted).valid
    obtain rfl := Except.ok.inj (same.symm.trans written)
    exact Attention.Descriptor.oneLine_written _

theorem Generated.bindingsJson_full (generated : Generated) :
    ∃ value, generated.bindingsJson .full = .ok value ∧ value.OneLine := by
  obtain ⟨bindings, written, each⟩ := mapM_total (Shader.BoundConstant.json .full) (fun _ value => Value.OneLine value)
    generated.bindings fun bound _ => bound.json_full
  refine ⟨.list bindings, by rw [bindingsJson, written]; rfl, ?_⟩
  rw [Value.OneLine, Json.itemsOneLine_iff]
  intro value member
  obtain ⟨_, -, single⟩ := exists_left_of_forall₂ each member
  exact single

/-- What is told about a kernel, if its descriptor can be written. -/
theorem Task.Makes.metadata_ok_iff (makes : task.Makes device tables generated) (name file : String) :
    (∃ value, generated.metadata name file = .ok value) ↔ task.Named := by
  rw [← makes.json_ok_iff]
  obtain ⟨bindings, bound, -⟩ := generated.bindingsJson_full
  unfold Generated.metadata
  dsimp only
  rw [bound, ok_bind]
  cases generated.descriptor.json .full <;> simp [pure, Except.pure]

theorem Task.Makes.metadata (makes : task.Makes device tables generated) {name file : String} {value : Value}
    (told : generated.metadata name file = .ok value) :
    value.OneLine ∧ (file.isEmpty = false → value.member? "file" = some (.text file)) := by
  obtain ⟨bindings, bound, single⟩ := generated.bindingsJson_full
  unfold Generated.metadata at told
  dsimp only at told
  rw [bound, ok_bind, bind_ok_iff] at told
  obtain ⟨kernel, written, told⟩ := told
  obtain rfl := Except.ok.inj told
  have oneLine := makes.oneLine_json written
  constructor
  · have grid : generated.gridJson.OneLine := by
      rw [Generated.gridJson, Value.OneLine, Json.itemsOneLine_iff, List.forall_mem_map]
      exact fun count _ => Json.oneLine_natural _
    have constants : generated.constantsJson.OneLine := by
      rw [Generated.constantsJson, Value.OneLine, Json.itemsOneLine_iff, List.forall_mem_map]
      intro constant _
      simp only [Shader.FunctionConstant.json, Shader.FunctionConstant.members, Value.OneLine, membersOneLine,
        Json.oneLine_natural, and_self]
    rw [Value.OneLine]
    simp only [membersOneLine_append, Json.membersOneLine_textUnlessEmpty, membersOneLine, Value.OneLine,
      Json.oneLine_natural, grid, constants, single, oneLine, and_self]
  · intro some
    simp [Value.member?, Json.textUnlessEmpty, some, Json.member]

end Kernel

namespace Bundle

variable {device : Device} {tables : Tuning.Tables} {jobs : List Manifest.Job} {entries : List Entry}
  {identifier : String}

/-- The index can be written if all kernels can. -/
theorem index_ok_iff (made : List.Forall₂ (IsEntry (Task.Makes device tables)) jobs entries) :
    (∃ value, index ⟨identifier, device, entries⟩ = .ok value) ↔ ∀ job ∈ jobs, job.task.Named := by
  constructor
  · rintro ⟨value, written⟩ job member
    obtain ⟨kernels, told, -⟩ := bind_ok_iff.mp written
    obtain ⟨entry, among, entryOf⟩ := exists_right_of_forall₂ made member
    obtain ⟨kernel, -, tells⟩ := exists_right_of_forall₂ (forall₂_of_mapM told) among
    exact (entryOf.generated.metadata_ok_iff _ _).mp ⟨kernel, tells⟩
  · intro named
    obtain ⟨kernels, told, -⟩ := mapM_total (fun entry : Entry => entry.generated.metadata entry.name entry.file)
      (fun _ _ => True) entries fun entry among => by
        obtain ⟨job, member, entryOf⟩ := exists_left_of_forall₂ made among
        obtain ⟨kernel, tells⟩ := (entryOf.generated.metadata_ok_iff entry.name entry.file).mpr (named job member)
        exact ⟨kernel, tells, trivial⟩
    exact ⟨_, by rw [index, told]; rfl⟩

/-- The files that an index lists. -/
def listedFiles (index : Value) : Option (List (Option Value)) :=
  match index.member? "kernels" with
  | some (.list kernels) => some (kernels.map fun kernel => kernel.member? "file")
  | _ => none

/-- The metadata of the kernels, in the order of their jobs. -/
theorem metadata_of_entries (made : List.Forall₂ (IsEntry (Task.Makes device tables)) jobs entries)
    (filed : ∀ job ∈ jobs, Manifest.IsKernelFile job.file) {kernels : List Value}
    (tells : List.Forall₂ (fun (entry : Entry) kernel => entry.generated.metadata entry.name entry.file = .ok kernel)
      entries kernels) :
    (∀ kernel ∈ kernels, kernel.OneLine) ∧
      kernels.map (fun kernel => kernel.member? "file") = jobs.map fun job => some (.text job.file) := by
  induction made generalizing kernels with
  | nil =>
    cases tells
    exact ⟨List.forall_mem_nil _, rfl⟩
  | cons entryOf _ ih =>
    obtain ⟨here, there⟩ := List.forall_mem_cons.mp filed
    cases tells with
    | cons first later =>
      obtain ⟨single, member⟩ := entryOf.generated.metadata first
      rw [entryOf.file] at member
      obtain ⟨singles, members⟩ := ih there later
      exact ⟨List.forall_mem_cons.mpr ⟨single, singles⟩, by rw [List.map_cons, List.map_cons, member here.isEmpty, members]⟩

/-- The index lists the files of the jobs in their order, and comes back out of an archive. -/
theorem index_lists (made : List.Forall₂ (IsEntry (Task.Makes device tables)) jobs entries)
    (filed : ∀ job ∈ jobs, Manifest.IsKernelFile job.file) {value : Value}
    (written : index ⟨identifier, device, entries⟩ = .ok value) :
    listedFiles value = some (jobs.map fun job => some (.text job.file)) ∧
      Archive.Framed (value.indented ++ "\n") := by
  obtain ⟨kernels, told, rest⟩ := bind_ok_iff.mp written
  obtain rfl := Except.ok.inj rest
  obtain ⟨singles, listed⟩ := metadata_of_entries made filed (forall₂_of_mapM told)
  constructor
  · rw [← listed]
    rfl
  · have single : (Value.list kernels).OneLine := by
      rw [Value.OneLine, Json.itemsOneLine_iff]
      exact singles
    have all : (Value.object [("id", .text identifier), ("device", device.json), ("kernels", .list kernels)]).OneLine := by
      simp only [Value.OneLine, membersOneLine, device.oneLine_json, and_true, true_and]
      exact single
    obtain ⟨_, spelled⟩ := Json.exists_toList_object .indented 0
      [("id", .text identifier), ("device", device.json), ("kernels", .list kernels)]
    exact (Json.steady_write 0 _ all).framed spelled (by decide)

end Bundle

end KernelForge
