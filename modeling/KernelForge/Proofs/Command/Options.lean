import Mathlib.Tactic
import KernelForge.Command.Invocation

/-!
What the settings of a command hold. An option is set to a value of its kind or the arguments are not understood at
all, so whatever command is invoked, the texts of its integers are integers of 64 bits.
-/

namespace KernelForge.Command

/-- The settings were read off arguments: each is a value that an option of its name accepts. -/
def Settings.Accepted (settings : Settings) : Prop :=
  ∀ setting ∈ settings, ∃ (verb : Verb) (form : OptionForm), form ∈ verb.options ++ programOptions ∧
    form.name = setting.1 ∧ form.kind.accepts setting.2 = true

/-- An option that is read is set to a value that it accepts, and all else stays. -/
theorem readOption_accepted {verb : Verb} {body : List Char} {following : Option String} {held next : Reading}
    {taken : Bool} (reads : readOption verb body following held = some (next, taken))
    (before : held.settings.Accepted) : next.settings.Accepted := by
  unfold readOption at reads
  simp only [Option.bind_eq_bind, Option.bind_eq_some_iff] at reads
  obtain ⟨form, meant, reads⟩ := reads
  have accept {value : String} {took : Bool}
      (ends : (if form.kind.accepts value = true then
        some ({ held with settings := (form.name, value) :: held.settings }, took) else none) = some (next, taken)) :
      next.settings.Accepted := by
    split at ends
    · rename_i accepted
      cases ends
      intro setting member
      rcases List.mem_cons.mp member with rfl | member
      · exact ⟨verb, form, List.mem_of_find?_eq_some meant, rfl, accepted⟩
      · exact before setting member
    · cases ends
  split at reads
  · exact accept reads
  · split at reads
    · cases reads
    · exact accept reads
  · obtain ⟨given, -, ends⟩ := Option.bind_eq_some_iff.mp reads
    exact accept ends

theorem scan_accepted {verb : Verb} {arguments : List String} {held reading : Reading}
    (scans : scan verb arguments held = some reading) (before : held.settings.Accepted) :
    reading.settings.Accepted := by
  -- Words leave the settings alone; only the cases of an option, with its value in it or behind it, add to them.
  fun_induction scan verb arguments held with
  | case1 | case2 | case3 | case4 | case5 | case10 =>
    cases scans
    exact before
  | case6 => cases scans
  | case7 _ _ _ _ _ _ next reads ih => exact ih scans (readOption_accepted reads before)
  | case8 _ _ _ _ _ next reads =>
    cases scans
    exact readOption_accepted reads before
  | case9 _ _ _ _ _ next _ _ reads ih => exact ih scans (readOption_accepted reads before)
  | case11 _ _ _ _ _ _ ih => exact ih scans before

theorem resolve_accepted {depth : Nat} {verb : Verb} {arguments : List String} {settings : Settings}
    {invocation : Invocation} (resolved : resolve depth verb arguments settings = .invoked invocation)
    (before : settings.Accepted) : invocation.settings.Accepted := by
  fun_induction resolve depth verb arguments settings with
  | case1 | case2 => cases resolved
  | case3 _ _ _ _ scans _ _ _ _ _ _ _ ih => exact ih resolved (scan_accepted scans before)
  | case4 _ _ _ _ scans | case5 _ _ _ _ _ scans =>
    cases resolved
    exact scan_accepted scans before

/-- Whatever is invoked, its settings were accepted. -/
theorem accepted_of_parse {arguments : List String} {invocation : Invocation}
    (parsed : Request.parse arguments = .invoked invocation) : invocation.settings.Accepted :=
  resolve_accepted parsed (by simp [Settings.Accepted])

/-- The sizes and strides of the problems. -/
def integerNames : List String := ["m", "n", "k", "ld-a", "ld-b", "ld-c", "row", "column", "head"]

/-- No command takes anything but an integer for a size or a stride. -/
theorem kind_of_integerNames {verb : Verb} {form : OptionForm} (offered : form ∈ verb.options ++ programOptions)
    (named : form.name ∈ integerNames) : form.kind = .integer := by
  have program : ∀ form ∈ programOptions, form.name ∈ integerNames → form.kind = .integer := by decide
  have own : ∀ form ∈ verb.options, form.name ∈ integerNames → form.kind = .integer := by
    cases verb with
    | help topic => exact fun form none => absurd none List.not_mem_nil
    | _ => decide
  rcases List.mem_append.mp offered with offered | offered
  · exact own form offered named
  · exact program form offered named

namespace Settings

variable {settings : Settings} {name : String}

/-- An option was given as an integer. -/
def Gives (settings : Settings) (name : String) (value : Int64) : Prop :=
  ∃ text, settings.value? name = some text ∧ Text.integer64? text = some value

/-- Where a size or a stride was given, it is the integer that commands work with. -/
theorem Accepted.gives (accepted : settings.Accepted) (number : name ∈ integerNames) (fallback : Int64)
    (given : settings.has name = true) : settings.Gives name (settings.integer name fallback) := by
  obtain ⟨text, held⟩ := Option.isSome_iff_exists.mp given
  obtain ⟨setting, found, rfl⟩ := Option.map_eq_some_iff.mp held
  obtain ⟨verb, form, offered, named, accepts⟩ := accepted setting (List.mem_of_find?_eq_some found)
  have here : setting.1 = name := by simpa using List.find?_some found
  rw [kind_of_integerNames offered (by rw [named, here]; exact number)] at accepts
  obtain ⟨value, reads⟩ := Option.isSome_iff_exists.mp accepts
  refine ⟨setting.2, held, ?_⟩
  rw [integer, held, Option.bind_some, reads, Option.getD_some]

end Settings

end KernelForge.Command
