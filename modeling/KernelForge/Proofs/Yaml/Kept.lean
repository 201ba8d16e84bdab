import KernelForge.Proofs.Cell
import KernelForge.Yaml.Reading

/-!
What reading cannot lose. A record that has a property before it is read has it afterwards, whatever the document says,
if none of its fields takes the property away: entries are passed over, repeated, merged or read through aliases, but
nothing else than the fields changes the record.
-/

namespace KernelForge.Yaml

variable {α β σ : Type}

/-- Whatever a reading gives is good. -/
def Gives (reading : Reading α) (good : α → Prop) : Prop :=
  ∀ surroundings progress value next, reading surroundings progress = .ok (value, next) → good value

section Steps

variable {reading : Reading α} {good : α → Prop}

theorem gives_pure {value : α} (holds : good value) : Gives (pure value) good := by
  intro surroundings progress result next read
  cases read
  exact holds

theorem gives_mismatch {value : α} (holds : good value) : Gives (mismatch value) good := by
  intro surroundings progress result next read
  cases read
  exact holds

theorem gives_throw (failure : Failure) : Gives (throw failure) good := by
  intro surroundings progress result next read
  cases read

/-- What comes after a reading starts from what it gives. -/
theorem Gives.bind {middle : β → Prop} {first : Reading β} {next : β → Reading α} (gives : Gives first middle)
    (rest : ∀ value, middle value → Gives (next value) good) : Gives (first >>= next) good := by
  intro surroundings progress result last read
  obtain ⟨⟨value, after⟩, start, finish⟩ := bind_ok_iff.mp read
  exact rest value (gives surroundings progress value after start) surroundings after result last finish

theorem gives_bind {first : Reading β} {next : β → Reading α} (rest : ∀ value, Gives (next value) good) :
    Gives (first >>= next) good :=
  have any : Gives first fun _ => True := fun _ _ _ _ _ => trivial
  any.bind fun value _ => rest value

/-- Nothing comes after a failure. -/
theorem gives_throw_bind (failure : Failure) (next : β → Reading α) : Gives (throw failure >>= next) good :=
  have never : Gives (throw failure : Reading β) fun _ => False := gives_throw failure
  never.bind fun _ impossible => impossible.elim

theorem gives_visit {node : Node} {readNode : Node → Reading α} (each : ∀ node, Gives (readNode node) good) :
    Gives (visit node readNode) good := by
  refine gives_bind fun _ => ?_
  split
  · refine gives_bind fun progress => ?_
    split
    · exact gives_throw_bind _ _
    · refine gives_bind fun _ => gives_bind fun _ => gives_bind fun target => ?_
      exact (each target).bind fun value holds => gives_bind fun _ => gives_pure holds
  · exact each _

theorem gives_foldlM {step : α → β → Reading α} (keeps : ∀ state element, good state → Gives (step state element) good)
    (elements : List β) {state : α} (holds : good state) : Gives (elements.foldlM step state) good := by
  induction elements generalizing state with
  | nil => exact gives_pure holds
  | cons first rest ih => exact (keeps state first holds).bind fun next held => ih held

theorem gives_filterMapM {step : β → Reading (Option α)}
    (each : ∀ element, Gives (step element) (∀ value ∈ ·, good value)) (elements : List β) :
    Gives (elements.filterMapM step) (∀ value ∈ ·, good value) := by
  have loop (elements : List β) (done : List α) (holds : ∀ value ∈ done, good value) :
      Gives (List.filterMapM.loop step elements done) (∀ value ∈ ·, good value) := by
    induction elements generalizing done with
    | nil =>
      refine gives_pure fun value member => holds value ?_
      simpa using member
    | cons first rest ih =>
      rw [List.filterMapM.loop]
      refine (each first).bind fun found fine => ?_
      cases found with
      | none => exact ih done holds
      | some value =>
        exact ih (value :: done) (List.forall_mem_cons.mpr ⟨fine value rfl, holds⟩)
  exact loop elements [] (by simp)

end Steps

/-! ### Records -/

/-- Reading onto a good value gives a good value. -/
def Keeps (read : Node → σ → Reading σ) (good : σ → Prop) : Prop :=
  ∀ node held, good held → Gives (read node held) good

section Records

variable {good : σ → Prop} {reader : EntryReader σ}

/-- A field keeps what its part says, and what the other parts say. -/
theorem keeps_of {key : String} {get : σ → α} {put : σ → α → σ} {read : Node → α → Reading α} {part : α → Prop}
    (keeps : Keeps read part) (inside : ∀ record, good record → part (get record))
    (back : ∀ record value, good record → part value → good (put record value)) :
    Keeps (Field.of key get put read).read good :=
  fun node held holds =>
    (keeps node (get held) (inside held holds)).bind fun value fine => gives_pure (back held value holds fine)

theorem gives_readEntry (each : ∀ merged name, Keeps (reader.read merged name) good) (gathered : Gathered σ)
    (entry : Node × Node) (holds : good gathered.value) : Gives (readEntry reader gathered entry) (good ·.value) := by
  unfold readEntry
  split
  · exact gives_pure holds
  · refine gives_bind fun name => ?_
    split
    · split
      · exact gives_pure holds
      · dsimp only
        split
        · exact gives_mismatch holds
        · exact (each _ _ _ _ holds).bind fun value fine => gives_pure fine
    · exact gives_pure holds

theorem gives_readEntries (each : ∀ merged name, Keeps (reader.read merged name) good) (depth : Nat)
    (entries : List (Node × Node)) (taken : Option (List String)) {held : σ} (holds : good held) :
    Gives (readEntries reader entries depth taken held) (good ·.1) := by
  induction depth generalizing entries taken held with
  | zero =>
    rw [readEntries]
    exact gives_throw _
  | succ depth ih =>
    rw [readEntries]
    split
    · exact gives_mismatch holds
    · refine (gives_foldlM (fun state entry => gives_readEntry each state entry) entries holds).bind
        fun own fine => ?_
      split
      · exact gives_pure fine
      · dsimp only
        split
        all_goals
          refine gives_bind fun names => ?_
          refine @Gives.bind _ _ _ (fun state => good state.1) _ _ ?_ fun last kept => ?_
          · refine gives_foldlM (fun state source kept => gives_visit fun node => ?_) _ fine
            split
            · exact ih _ _ kept
            · exact gives_throw _
          · exact gives_pure kept

/-- A record keeps what each of its fields keeps. -/
theorem keeps_readRecord {strict : Bool} {fields : List (Field σ)} (each : ∀ field ∈ fields, Keeps field.read good) :
    Keeps (readRecord strict fields) good := by
  intro node held holds
  unfold readRecord
  refine gives_visit fun node => ?_
  split
  · refine gives_bind fun surroundings => ?_
    refine (gives_readEntries ?_ _ _ _ holds).bind fun found fine => gives_pure fine
    intro merged name node record kept
    dsimp only
    split
    · rename_i field found
      exact each field (List.mem_of_find?_eq_some found) node record kept
    · split
      · exact gives_mismatch kept
      · exact gives_pure kept
  · refine gives_bind fun value => ?_
    split
    · exact gives_pure holds
    · exact gives_mismatch holds
  · exact gives_mismatch holds

/-- A list keeps what each of its items has. -/
theorem keeps_readList {good : α → Prop} {item : Node → Reading (Option α)}
    (each : ∀ node, Gives (item node) (∀ value ∈ ·, good value)) :
    Keeps (readList item) (∀ value ∈ ·, good value) := by
  intro node held holds
  unfold readList
  refine gives_visit fun node => ?_
  split
  · exact gives_filterMapM each _
  · refine gives_bind fun value => ?_
    split
    · exact gives_pure (by simp)
    · exact gives_mismatch holds
  · exact gives_mismatch holds

/-- What is read from a text onto a good value is good. -/
theorem good_of_readOnto {read : Node → σ → Reading σ} (keeps : Keeps read good) {text : String} {held result : σ}
    (holds : good held) (done : readOnto read text held = .ok result) : good result := by
  obtain ⟨found, ran, last⟩ := bind_ok_iff.mp done
  cases last
  unfold read? at ran
  split at ran
  · cases ran
  · cases ran
    exact holds
  · rename_i document _
    cases outcome : document.run text.length fun node => read node held with
    | error failure =>
      rw [outcome] at ran
      cases ran
    | ok value =>
      rw [outcome] at ran
      cases ran
      obtain ⟨⟨final, progress⟩, whole, rest⟩ := bind_ok_iff.mp outcome
      have fine : good final := keeps document.root held holds _ _ final progress whole
      dsimp only at rest
      split at rest
      · cases rest
      · cases rest
        exact fine

end Records

end KernelForge.Yaml
