import KernelForge.Proofs.Attention.Heuristic
import KernelForge.Proofs.Command.Options
import KernelForge.Proofs.Command.Session
import KernelForge.Proofs.Grid

/-!
What becomes of the sizes and strides on the command line. They are integers of 64 bits, and the problem has 32 for each
of them, or 16 for a head dimension. The bits beyond are dropped, so an integer that is negative or too long turns into
another one: a command with it fails where that is a size of zero, and delivers the kernel of another problem elsewhere.
-/

namespace KernelForge.Command

/-- A number that holds an integer as far as so many bits go. -/
structure Cut (bits : Nat) (value : Int64) (held : Nat) : Prop where
  residue : (held : Int) = value.toInt % 2 ^ bits
  exact_iff : (held : Int) = value.toInt ↔ 0 ≤ value.toInt ∧ value.toInt < 2 ^ bits

/-- The lowest bits of a word. -/
theorem cut_of_word {bits : Nat} (narrow : bits ≤ 64) (value : Int64) :
    Cut bits value (value.toUInt64.toNat % 2 ^ bits) := by
  have word : value.toInt % (2 ^ 64 : Nat) = value.toUInt64.toNat := by
    rw [Int64.toInt, BitVec.toInt_eq_toNat_bmod, Int.bmod_emod, Int.emod_eq_of_lt (by omega)]
    · rfl
    · exact_mod_cast value.toUInt64.toNat_lt
  have residue : ((value.toUInt64.toNat % 2 ^ bits : Nat) : Int) = value.toInt % 2 ^ bits := by
    have divides : ((2 ^ bits : Nat) : Int) ∣ (2 ^ 64 : Nat) := by exact_mod_cast Nat.pow_dvd_pow 2 narrow
    rw [Int.natCast_mod, ← word, Int.emod_emod_of_dvd _ divides, Nat.cast_pow, Nat.cast_ofNat]
  have positive : (0 : Int) < 2 ^ bits := by positivity
  refine ⟨residue, ?_⟩
  rw [residue]
  constructor
  · intro same
    exact ⟨same ▸ Int.emod_nonneg _ positive.ne', same ▸ Int.emod_lt_of_pos _ positive⟩
  · rintro ⟨least, greatest⟩
    exact Int.emod_eq_of_lt least greatest

theorem cut_toUInt32 (value : Int64) : Cut 32 value value.toUInt64.toUInt32.toNat := by
  rw [UInt64.toNat_toUInt32]
  exact cut_of_word (by decide) value

theorem cut_toUInt16 (value : Int64) : Cut 16 value value.toUInt64.toUInt16.toNat := by
  rw [UInt64.toNat_toUInt16]
  exact cut_of_word (by decide) value

namespace Settings

/-- An option that has to be given, and what is held of its integer. -/
def Needs (settings : Settings) (name : String) (bits held : Nat) : Prop :=
  ∃ value, settings.Gives name value ∧ Cut bits value held

/-- An option that stands for zero when it is left out, and what is held of its integer. -/
def Allows (settings : Settings) (name : String) (bits held : Nat) : Prop :=
  settings.value? name = none ∧ held = 0 ∨ settings.Needs name bits held

end Settings

/-- A row stride: what is held of it, or that of packed rows when this is zero. -/
def strideOr (held packed : UInt32) : UInt32 :=
  if held ≠ 0 then held else packed

/-- A generated kernel of a matrix product whose sizes and strides are what is held of the integers of its options:
    those that are bound, and those that the grid is for. -/
structure ProductOf (settings : Settings) (problem : Gemm.Problem) (generated : Generated) : Prop where
  m : settings.Needs "m" 32 problem.extents.m.toNat
  n : settings.Needs "n" 32 problem.extents.n.toNat
  k : settings.Needs "k" 32 problem.extents.k.toNat
  a : settings.Allows "ld-a" 32 problem.leading.a.toNat
  b : settings.Allows "ld-b" 32 problem.leading.b.toNat
  c : settings.Allows "ld-c" 32 problem.leading.c.toNat
  occupied : problem.extents.m ≠ 0 ∧ problem.extents.n ≠ 0 ∧ problem.extents.k ≠ 0
  bindings : ∃ scale, generated.bindings =
    [⟨⟨0, "M", .uint⟩, .uint problem.extents.m⟩, ⟨⟨1, "N", .uint⟩, .uint problem.extents.n⟩,
      ⟨⟨2, "K", .uint⟩, .uint problem.extents.k⟩,
      ⟨⟨5, "A_leading_dimension", .uint⟩, .uint (strideOr problem.leading.a
        (if settings.switch "transpose-a" then problem.extents.m else problem.extents.k))⟩,
      ⟨⟨6, "B_leading_dimension", .uint⟩, .uint (strideOr problem.leading.b
        (if settings.switch "transpose-b" then problem.extents.k else problem.extents.n))⟩,
      ⟨⟨7, "C_leading_dimension", .uint⟩, .uint (strideOr problem.leading.c problem.extents.n)⟩,
      ⟨⟨10, "load_previous_C", .bool⟩, .bool (settings.switch "load-previous-c")⟩,
      ⟨⟨11, "beta", .float⟩, .float scale⟩]
  grid : ∃ descriptor x y, generated.descriptor = .gemm descriptor ∧ generated.grid = [x, y] ∧
    Gemm.CoveredBy x descriptor.block.n.toUInt32 problem.extents.n ∧
    Gemm.CoveredBy y descriptor.block.m.toUInt32 problem.extents.m

/-- A generated kernel of a pass whose sizes are what is held of the integers of its options: those that are bound, the
    head dimension that it is made for, and the length that the grid is for. -/
structure PassOf (settings : Settings) (problem : Attention.Problem) (generated : Generated) : Prop where
  row : settings.Needs "row" 32 problem.extents.row.toNat
  column : settings.Needs "column" 32 problem.extents.column.toNat
  head : settings.Needs "head" 16 problem.extents.head.toNat
  occupied : problem.extents.row ≠ 0 ∧ problem.extents.column ≠ 0 ∧ problem.extents.head ≠ 0
  bindings : generated.bindings =
    [⟨⟨0, "R", .uint⟩, .uint problem.extents.row⟩, ⟨⟨1, "C", .uint⟩, .uint problem.extents.column⟩]
  kernel : ∃ descriptor pieces, generated.descriptor = .attention descriptor ∧ descriptor.head = problem.extents.head ∧
    generated.grid = [pieces] ∧ Gemm.CoveredBy pieces descriptor.block.parallelization.toUInt32
      (descriptor.dividedLength problem.extents)

namespace Settings.Accepted

variable {settings : Settings} (accepted : settings.Accepted) {name : String}
include accepted

theorem needs (number : name ∈ integerNames) (given : settings.has name = true) :
    settings.Needs name 32 (settings.integer name 0).toUInt64.toUInt32.toNat :=
  ⟨_, accepted.gives number 0 given, cut_toUInt32 _⟩

theorem allows (number : name ∈ integerNames) :
    settings.Allows name 32 (settings.integer name 0).toUInt64.toUInt32.toNat := by
  cases given : settings.value? name with
  | none =>
    refine .inl ⟨given, ?_⟩
    rw [Settings.integer, given]
    rfl
  | some text => exact .inr (accepted.needs number (by rw [Settings.has, given, Option.isSome_some]))

end Settings.Accepted

/-- What the options of a matrix product say, apart from its formats. -/
theorem eq_of_gemmProblem {settings : Settings} {problem : Gemm.Problem}
    (described : gemmProblem settings = .ok problem) :
    let word (name : String) : UInt32 := (settings.integer name 0).toUInt64.toUInt32
    problem.extents = ⟨word "m", word "n", word "k"⟩ ∧ problem.leading = ⟨word "ld-a", word "ld-b", word "ld-c"⟩ ∧
      problem.transpose = ⟨settings.switch "transpose-a", settings.switch "transpose-b"⟩ ∧
      problem.loadPreviousC = settings.switch "load-previous-c" := by
  unfold gemmProblem at described
  simp only [bind_ok_iff] at described
  obtain ⟨a, -, b, -, c, -, axis, -, described⟩ := described
  split at described
  · cases described
    exact ⟨rfl, rfl, rfl, rfl⟩
  · obtain ⟨precision, -, described⟩ := bind_ok_iff.mp described
    cases described
    exact ⟨rfl, rfl, rfl, rfl⟩

section Running

variable {environment : Environment} {arguments : List String} {invocation : Invocation} {before after : Session}

theorem product_of_run (parsed : Request.parse arguments = .invoked invocation) (verb : invocation.verb = .gemm)
    (ran : StateT.run (run Session.host environment arguments) before = (.finished (.ok ()), after)) :
    ∃ problem generated, Delivers environment invocation.settings before (.gemm problem) generated after ∧
      ProductOf invocation.settings problem generated := by
  obtain ⟨context, ready, complete, performed⟩ := perform_of_run parsed ran
  rw [perform, verb] at performed
  obtain ⟨problem, generated, described, delivers⟩ := delivers_of_gemm ready (succeeds_of_finished performed)
  refine ⟨problem, generated, delivers, ?_⟩
  have accepted := accepted_of_parse parsed
  have given (name : String) (needed : ⟨name, .integer, none, true⟩ ∈ Verb.gemm.options) :
      invocation.settings.has name = true :=
    has_of_missing complete (verb.symm ▸ needed) rfl
  obtain ⟨extents, leading, transpose, loads⟩ := eq_of_gemmProblem described
  obtain ⟨-, -, makes, -⟩ := delivers
  cases makes with
  | gemm chosen made =>
    have occupied := Gemm.occupied_of_descriptor chosen
    exact {
      m := extents ▸ accepted.needs (by decide) (given "m" (by decide))
      n := extents ▸ accepted.needs (by decide) (given "n" (by decide))
      k := extents ▸ accepted.needs (by decide) (given "k" (by decide))
      a := leading ▸ accepted.allows (by decide)
      b := leading ▸ accepted.allows (by decide)
      c := leading ▸ accepted.allows (by decide)
      occupied
      bindings := ⟨problem.scale, by
        simp only [Gemm.Problem.boundConstants, Gemm.Problem.strides, Gemm.constants, transpose, loads, strideOr,
          List.zipWith]⟩
      grid := ⟨_, _, _, rfl, rfl, Gemm.coveredBy_grid made occupied.1 occupied.2.1⟩ }

theorem pass_of_run (parsed : Request.parse arguments = .invoked invocation) (verb : invocation.verb = .attention)
    (ran : StateT.run (run Session.host environment arguments) before = (.finished (.ok ()), after)) :
    ∃ problem type generated,
      Delivers environment invocation.settings before (.attention problem type) generated after ∧
      PassOf invocation.settings problem generated := by
  obtain ⟨context, ready, complete, performed⟩ := perform_of_run parsed ran
  rw [perform, verb] at performed
  obtain ⟨pass, generated, -, delivers⟩ := delivers_of_attention ready (succeeds_of_finished performed)
  refine ⟨_, _, generated, delivers, ?_⟩
  have accepted := accepted_of_parse parsed
  have given (name : String) (needed : ⟨name, .integer, none, true⟩ ∈ Verb.attention.options) :
      invocation.settings.has name = true :=
    has_of_missing complete (verb.symm ▸ needed) rfl
  obtain ⟨-, -, makes, -⟩ := delivers
  cases makes with
  | attention chosen made =>
    obtain ⟨all, head⟩ := Attention.Problem.complete_of_descriptor chosen
    exact {
      row := accepted.needs (by decide) (given "row" (by decide))
      column := accepted.needs (by decide) (given "column" (by decide))
      head := ⟨_, accepted.gives (by decide) 0 (given "head" (by decide)), cut_toUInt16 _⟩
      occupied := ⟨all.row, all.column, all.head⟩
      bindings := rfl
      kernel := ⟨_, _, rfl, head, rfl, Attention.coveredBy_grid made all.row all.column⟩ }

/-- A run for one kernel that succeeds delivers the kernel of the integers that were given, as far as their bits go.
    What is bound, the head dimension that the kernel is made for and its grid belong to the residues of these integers
    modulo 2³², and modulo 2¹⁶ for a head dimension. The residues are the integers themselves just where these fit. No
    size is zero, and a stride of zero is that of packed rows. -/
theorem run_cuts_integers (parsed : Request.parse arguments = .invoked invocation)
    (ran : StateT.run (run Session.host environment arguments) before = (.finished (.ok ()), after)) :
    (invocation.verb = .gemm →
      ∃ problem generated, Delivers environment invocation.settings before (.gemm problem) generated after ∧
        ProductOf invocation.settings problem generated) ∧
    (invocation.verb = .attention →
      ∃ problem type generated,
        Delivers environment invocation.settings before (.attention problem type) generated after ∧
        PassOf invocation.settings problem generated) :=
  ⟨fun verb => product_of_run parsed verb ran, fun verb => pass_of_run parsed verb ran⟩

end Running

/-- What is held of an integer that was given. -/
theorem Settings.Needs.eq_residue {settings : Settings} {name : String} {bits held residue : Nat}
    (needs : settings.Needs name bits held) {value : Int64} (given : settings.Gives name value)
    (least : value.toInt % 2 ^ bits = residue) : held = residue := by
  obtain ⟨other, ⟨text, found, reads⟩, cut⟩ := needs
  obtain ⟨same, here, also⟩ := given
  obtain rfl := Option.some.inj (found.symm.trans here)
  obtain rfl := Option.some.inj (reads.symm.trans also)
  exact Int.ofNat.inj (cut.residue.trans least)

theorem Settings.Allows.eq_residue {settings : Settings} {name : String} {bits held residue : Nat}
    (allows : settings.Allows name bits held) {value : Int64} (given : settings.Gives name value)
    (least : value.toInt % 2 ^ bits = residue) : held = residue := by
  obtain ⟨missing, -⟩ | needs := allows
  · obtain ⟨text, here, -⟩ := given
    rw [missing] at here
    cases here
  · exact needs.eq_residue given least

/-- Whether a run ended well. -/
def Outcome.succeeded : Outcome → Bool
  | .finished (.ok _) => true
  | _ => false

theorem exists_of_succeeded (arguments : List String)
    (succeeded : (StateT.run (m := Id) (run Session.host {} arguments) {}).1.succeeded = true) :
    ∃ after, StateT.run (run Session.host {} arguments) {} = (.finished (.ok ()), after) := by
  rcases ran : StateT.run (run Session.host {} arguments) {} with ⟨outcome, after⟩
  rw [ran] at succeeded
  cases outcome with
  | usage failed => cases succeeded
  | finished result =>
    cases result with
    | error failure => cases succeeded
    | ok nothing => exact ⟨after, rfl⟩

/-- The command and the settings that arguments come to. -/
def Request.invocation? : Request → Option (Verb × Settings)
  | .invoked invocation => some (invocation.verb, invocation.settings)
  | _ => none

theorem exists_of_invocation? (arguments : List String) (verb : Verb) (settings : Settings)
    (found : (Request.parse arguments).invocation? = some (verb, settings)) :
    ∃ words, Request.parse arguments = .invoked ⟨verb, settings, words⟩ := by
  cases parsed : Request.parse arguments with
  | misused =>
    rw [parsed] at found
    cases found
  | helpWanted =>
    rw [parsed] at found
    cases found
  | invoked invocation =>
    rw [parsed] at found
    cases found
    exact ⟨invocation.words, rfl⟩

/-- The arguments for a product whose other factor has 64 columns. -/
def productArguments (m : String) : List String :=
  ["--family", "apple9", "gemm", "--m", m, "--n", "64", "--k", "32", "--ld-a", "40"]

/-- The settings that they come to. -/
def productSettings (m : String) : Settings :=
  [("ld-a", "40"), ("k", "32"), ("n", "64"), ("m", m), ("family", "apple9")]

/-- A product of 100 rows is generated for 100 rows, at the stride that was given. -/
theorem run_cuts_integers_fitting : ∃ words after problem generated,
    Request.parse (productArguments "100") = .invoked ⟨.gemm, productSettings "100", words⟩ ∧
    StateT.run (run Session.host {} (productArguments "100")) {} = (.finished (.ok ()), after) ∧
    Delivers {} (productSettings "100") {} (.gemm problem) generated after ∧ problem.extents.m.toNat = 100 ∧
    problem.leading.a.toNat = 40 := by
  obtain ⟨words, parsed⟩ := exists_of_invocation? (productArguments "100") .gemm (productSettings "100")
      (by decide +kernel)
  obtain ⟨after, ran⟩ := exists_of_succeeded (productArguments "100") (by decide +kernel)
  obtain ⟨products, -⟩ := run_cuts_integers parsed ran
  obtain ⟨problem, generated, delivers, made⟩ := products rfl
  have rows : (productSettings "100").Gives "m" 100 := ⟨"100", by decide +kernel, by decide +kernel⟩
  have stride : (productSettings "100").Gives "ld-a" 40 := ⟨"40", by decide +kernel, by decide +kernel⟩
  refine ⟨words, after, problem, generated, parsed, ran, delivers, ?_, ?_⟩
  · exact made.m.eq_residue rows (by decide)
  · exact made.a.eq_residue stride (by decide)

/-- The arguments for a pass. -/
def passArguments (head : String) : List String :=
  ["--family", "apple9", "attention", "--row", "64", "--column", "64", "--head", head]

/-- The settings that they come to. -/
def passSettings (head : String) : Settings :=
  [("head", head), ("column", "64"), ("row", "64"), ("family", "apple9")]

/-- A product of 2³² + 1 rows is generated for one row, and a pass with a head dimension of 2¹⁶ + 8 for one of
    eight. -/
theorem run_drops_bits :
    (∃ words after problem generated,
      Request.parse (productArguments "4294967297") = .invoked ⟨.gemm, productSettings "4294967297", words⟩ ∧
      StateT.run (run Session.host {} (productArguments "4294967297")) {} = (.finished (.ok ()), after) ∧
      Delivers {} (productSettings "4294967297") {} (.gemm problem) generated after ∧
      generated.bindings.head? = some ⟨⟨0, "M", .uint⟩, .uint 1⟩) ∧
    ∃ words after problem type generated descriptor,
      Request.parse (passArguments "65544") = .invoked ⟨.attention, passSettings "65544", words⟩ ∧
      StateT.run (run Session.host {} (passArguments "65544")) {} = (.finished (.ok ()), after) ∧
      Delivers {} (passSettings "65544") {} (.attention problem type) generated after ∧
      generated.descriptor = .attention descriptor ∧ descriptor.head = 8 := by
  constructor
  · obtain ⟨words, parsed⟩ := exists_of_invocation? (productArguments "4294967297") .gemm (productSettings "4294967297")
      (by decide +kernel)
    obtain ⟨after, ran⟩ := exists_of_succeeded (productArguments "4294967297") (by decide +kernel)
    obtain ⟨problem, generated, delivers, made⟩ := product_of_run parsed rfl ran
    have rows : (productSettings "4294967297").Gives "m" 4294967297 :=
      ⟨"4294967297", by decide +kernel, by decide +kernel⟩
    have one : problem.extents.m = 1 := UInt32.toNat_inj.mp (made.m.eq_residue rows (by decide))
    obtain ⟨scale, bindings⟩ := made.bindings
    refine ⟨words, after, problem, generated, parsed, ran, delivers, ?_⟩
    rw [bindings, one, List.head?_cons]
  · obtain ⟨words, parsed⟩ := exists_of_invocation? (passArguments "65544") .attention (passSettings "65544")
      (by decide +kernel)
    obtain ⟨after, ran⟩ := exists_of_succeeded (passArguments "65544") (by decide +kernel)
    obtain ⟨problem, type, generated, delivers, made⟩ := pass_of_run parsed rfl ran
    have head : (passSettings "65544").Gives "head" 65544 := ⟨"65544", by decide +kernel, by decide +kernel⟩
    have eight : problem.extents.head = 8 := UInt16.toNat_inj.mp (made.head.eq_residue head (by decide))
    obtain ⟨descriptor, pieces, kernel, same, -⟩ := made.kernel
    exact ⟨words, after, problem, type, generated, descriptor, parsed, ran, delivers, kernel, same.trans eight⟩

end KernelForge.Command
