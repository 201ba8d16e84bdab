import KernelForge.Proofs.Archive
import KernelForge.Proofs.Shader.Fence

/-!
Margins of shader source. A line of a nested statement starts with its indentation, so only the outermost statements
and the headers decide which characters a line of a program starts with. As none starts with a dash, a program comes
back out of an archive.
-/

namespace KernelForge.Shader

/-- No line starts with a dash. -/
def Dashless (lines : List String) : Prop :=
  ∀ line ∈ lines, initial line ≠ some '-'

@[simp]
theorem dashless_nil : Dashless [] :=
  List.forall_mem_nil _

@[simp]
theorem dashless_cons {line : String} {lines : List String} :
    Dashless (line :: lines) ↔ initial line ≠ some '-' ∧ Dashless lines :=
  List.forall_mem_cons

@[simp]
theorem dashless_append {first second : List String} :
    Dashless (first ++ second) ↔ Dashless first ∧ Dashless second :=
  List.forall_mem_append

theorem indented_zero (unit text : String) : indented unit 0 text = text := by
  rw [indented, List.replicate_zero, String.join_nil, String.empty_append]

theorem initial_indented {unit : String} {margin : Char} (spelled : initial unit = some margin) (depth : Nat)
    (text : String) : initial (indented unit (depth + 1) text) = some margin := by
  rw [indented, List.replicate_succ, String.join_cons, initial_append, initial_append, spelled, Option.some_or,
    Option.some_or]

theorem dashless_rawLines {unit : String} {margin : Char} (spelled : initial unit = some margin) (other : margin ≠ '-')
    (depth : Nat) (text : String) : Dashless (rawLines unit (depth + 1) text) := by
  intro line member
  obtain ⟨piece, -, rfl⟩ := List.mem_map.mp member
  split
  · decide
  · rw [initial_indented spelled]
    exact fun same => other (Option.some.inj same)

mutual

/-- The lines of a nested statement start with its indentation. -/
theorem dashless_lines {unit : String} {margin : Char} (spelled : initial unit = some margin) (other : margin ≠ '-')
    (depth : Nat) : (statement : Stmt) → Dashless (statement.lines unit (depth + 1))
  | .line _ | .comment _ | .barrier => by simp [Stmt.lines, initial_indented spelled, other]
  | .raw text => by
    rw [Stmt.lines]
    exact dashless_rawLines spelled other depth text
  | .blank => by simp [Stmt.lines, initial]
  | .block _ body | .scope body | .cond _ body => by
    simp [Stmt.lines, braced, initial_indented spelled, other, dashless_linesAll spelled other (depth + 1) body]
  | .indent body => by simp [Stmt.lines, dashless_linesAll spelled other (depth + 1) body]
  | .condElse _ body otherwise => by
    simp [Stmt.lines, initial_indented spelled, other, dashless_linesAll spelled other (depth + 1) body,
      dashless_linesAll spelled other (depth + 1) otherwise]
  | .loop unroll _ body => by
    cases unroll <;>
      simp [Stmt.lines, braced, Unroll.pragma?, initial_indented spelled, other,
        dashless_linesAll spelled other (depth + 1) body]

theorem dashless_linesAll {unit : String} {margin : Char} (spelled : initial unit = some margin) (other : margin ≠ '-')
    (depth : Nat) : (statements : List Stmt) → Dashless (linesAll unit (depth + 1) statements)
  | [] => by simp [linesAll]
  | statement :: rest => by
    simp [linesAll, dashless_lines spelled other depth statement, dashless_linesAll spelled other depth rest]

end

/-- What an outermost statement starts with, where the statement itself says it. -/
def Stmt.Dashless : Stmt → Prop
  | .line text => initial text ≠ some '-'
  | .raw text => Shader.Dashless (rawLines "" 0 text)
  | .block header _ => initial header ≠ some '-'
  | _ => True

theorem initial_append_ne {first second : String} {character : Char} (left : initial first ≠ some character)
    (right : initial second ≠ some character) : initial (first ++ second) ≠ some character := by
  rw [initial_append]
  cases spelled : initial first with
  | none => rwa [Option.none_or]
  | some found => rwa [Option.some_or, ← spelled]

section Outermost

variable {unit : String} {margin : Char} (spelled : initial unit = some margin) (other : margin ≠ '-')

include spelled other

theorem dashless_outermost {statement : Stmt} (dashless : statement.Dashless) : Dashless (statement.lines unit 0) := by
  have inner (body : List Stmt) : Dashless (linesAll unit (0 + 1) body) := dashless_linesAll spelled other 0 body
  have closing : initial "\x7d" ≠ some '-' := by decide
  have guard (condition : String) : initial ("if (" ++ condition ++ ") \x7b") ≠ some '-' := by
    rw [String.append_assoc, initial_append, initial_literal rfl, Option.some_or]
    decide
  cases statement with
  | line text => simpa [Stmt.lines, indented_zero, Stmt.Dashless] using dashless
  | raw text => simpa only [Stmt.lines, rawLines, indented_zero, Stmt.Dashless] using dashless
  | blank => simp [Stmt.lines, initial]
  | comment text =>
    have slash : initial ("// " ++ text) ≠ some '-' := by
      rw [initial_append, initial_literal rfl, Option.some_or]
      decide
    simp [Stmt.lines, indented_zero, slash]
  | block header body =>
    have opening : initial (header ++ " \x7b") ≠ some '-' := initial_append_ne dashless (by decide)
    simp [Stmt.lines, braced, indented_zero, opening, inner, closing]
  | scope body =>
    have opening : initial "\x7b" ≠ some '-' := by decide
    simp [Stmt.lines, braced, indented_zero, opening, inner, closing]
  | indent body => simp [Stmt.lines, inner]
  | cond condition body => simp [Stmt.lines, braced, indented_zero, guard, inner, closing]
  | condElse condition body otherwise =>
    have between : initial "\x7d else \x7b" ≠ some '-' := by decide
    simp [Stmt.lines, indented_zero, guard, between, inner, closing]
  | loop unroll header body =>
    have opening : initial ("for (" ++ header ++ ") \x7b") ≠ some '-' := by
      rw [String.append_assoc, initial_append, initial_literal rfl, Option.some_or]
      decide
    have pragma : Dashless (unroll.pragma?.map (indented unit 0)).toList := by
      cases unroll <;> simp [Unroll.pragma?, indented_zero] <;> decide
    simp [Stmt.lines, braced, indented_zero, opening, inner, closing, pragma]
  | barrier =>
    have meeting : initial barrierLine ≠ some '-' := by decide
    simp [Stmt.lines, indented_zero, meeting]

theorem dashless_statements {statements : List Stmt} (each : ∀ statement ∈ statements, statement.Dashless) :
    Dashless (linesAll unit 0 statements) := by
  induction statements with
  | nil => simp [linesAll]
  | cons statement rest ih =>
    obtain ⟨first, later⟩ := List.forall_mem_cons.mp each
    rw [linesAll, dashless_append]
    exact ⟨dashless_outermost spelled other first, ih later⟩

end Outermost

/-! ### Heads and headers -/

/-- The lines of the head of a kernel function: the first starts with a word, the others with blanks. -/
theorem dashless_kernelHead (name : String) (arguments : List String) :
    ∀ statement ∈ kernelHead name arguments, statement.Dashless := by
  have starts : initial s!"kernel void {name}(" = some 'k' := by
    have word : initial "kernel void " = some 'k' := rfl
    simp only [initial_append, Text.toString_self, word, Option.some_or]
  have line {text behind : String} {first : Char} (spelled : initial text = some first) (other : first ≠ '-') :
      (Stmt.line (text ++ behind)).Dashless := by
    rw [Stmt.Dashless, initial_append, spelled, Option.some_or]
    exact fun same => other (Option.some.inj same)
  cases arguments with
  | nil => exact List.forall_mem_singleton.mpr (line starts (by decide))
  | cons first rest =>
    have each : ∀ text ∈ (s!"kernel void {name}(" ++ first) ::
        rest.map (String.ofList (List.replicate (s!"kernel void {name}(").length ' ') ++ ·),
        ∃ first, initial text = some first ∧ first ≠ '-' := by
      refine List.forall_mem_cons.mpr ⟨⟨'k', by rw [initial_append, starts, Option.some_or], by decide⟩, ?_⟩
      intro text member
      obtain ⟨argument, -, rfl⟩ := List.mem_map.mp member
      have some : (s!"kernel void {name}(").toList ≠ [] := by
        intro none
        rw [initial, none] at starts
        cases starts
      obtain ⟨count, length⟩ := Nat.exists_eq_succ_of_ne_zero (mt List.length_eq_zero_iff.mp some)
      refine ⟨' ', ?_, by decide⟩
      rw [initial_append, ← String.length_toList, length, initial, String.toList_ofList]
      rfl
    intro statement member
    obtain ⟨⟨text, index⟩, among, rfl⟩ := List.mem_map.mp member
    obtain ⟨first, spelled, other⟩ := each text (List.fst_mem_of_mem_zipIdx among)
    exact line spelled other

theorem dashless_preamble : Dashless (eventLines ++ "" :: storageLines ++ [""]) := by
  have blanks : initial "  " = some ' ' := rfl
  have tab : initial "\t" = some '\t' := rfl
  have outermost (statements : List Stmt) (each : ∀ statement ∈ statements, statement.Dashless) :
      Dashless (handwritten 0 statements) := dashless_statements blanks (by decide) each
  have nested (depth : Nat) (statements : List Stmt) : Dashless (handwritten (depth + 1) statements) :=
    dashless_linesAll blanks (by decide) depth statements
  have members (depth : Nat) (statements : List Stmt) : Dashless (linesAll "\t" (depth + 1) statements) :=
    dashless_linesAll tab (by decide) depth statements
  have primitives : ∀ statement ∈ copyPrimitives, statement.Dashless := by
    simp only [copyPrimitives, copyPrimitive, spread, List.flatten_cons, List.flatten_nil, List.cons_append,
      List.nil_append, List.append_nil, List.forall_mem_cons, List.not_mem_nil, IsEmpty.forall_iff, implies_true]
    simp only [Stmt.Dashless]
    simp (disch := rfl) only [initial_literal]
    decide
  have first : Dashless eventLines := by
    simp only [eventLines, guarded, between, metalNamespace, dashless_append, dashless_cons, dashless_nil, nested 0,
      nested 1, outermost _ primitives]
    simp (disch := rfl) only [initial_literal]
    decide
  have second : Dashless storageLines := by
    simp only [storageLines, guarded, between, metalNamespace, dashless_append, dashless_cons, dashless_nil, nested 0,
      nested 1, members 1]
    simp (disch := rfl) only [initial_literal]
    refine ⟨⟨by decide, outermost _ ?_, by decide⟩, by decide⟩
    simp only [List.forall_mem_cons, List.not_mem_nil, IsEmpty.forall_iff, implies_true]
    simp only [Stmt.Dashless]
    simp (disch := rfl) only [initial_literal]
    decide
  have blank : initial "" ≠ some '-' := by decide
  simp only [dashless_append, dashless_cons, dashless_nil, first, second, blank, ne_eq, not_false_eq_true, and_self]

/-! ### Texts -/

theorem toList_unlines (lines : List String) :
    (unlines lines).toList = lines.flatMap fun line => line.toList ++ ['\n'] := by
  have after : ∀ text, (lines.foldl (fun text line => text ++ line ++ "\n") text).toList =
      text.toList ++ lines.flatMap fun line => line.toList ++ ['\n'] := by
    induction lines with
    | nil => simp
    | cons line rest ih =>
      intro text
      have feed : "\n".toList = ['\n'] := rfl
      rw [List.foldl_cons, ih, String.toList_append, String.toList_append, feed, List.flatMap_cons]
      simp only [List.append_assoc]
  rw [unlines, after]
  rfl

/-- Lines that are one line each and start with no dash. -/
theorem framed_unlines {lines : List String} (single : ∀ line ∈ lines, '\n' ∉ line.toList) (dashless : Dashless lines) :
    Archive.Framed (unlines lines) := by
  induction lines with
  | nil =>
    constructor
    · exact .inl rfl
    · rintro _ ⟨⟩
  | cons line rest ih =>
    obtain ⟨one, ones⟩ := List.forall_mem_cons.mp single
    obtain ⟨first, later⟩ := dashless_cons.mp dashless
    have front : Archive.Framed (unlines [line]) := by
      have shape : (unlines [line]).toList = line.toList ++ '\n' :: [] := by
        rw [toList_unlines, List.flatMap_cons, List.flatMap_nil, List.append_nil]
      constructor
      · rw [shape]
        exact .inr List.getLast?_concat
      · rw [shape, Archive.lines_feed one, Archive.lines, List.forall_mem_singleton]
        apply Archive.markerName?_of_head?
        rw [initial] at first
        cases spelled : line.toList with
        | nil => decide
        | cons character characters => rwa [spelled] at first
    exact (unlines_append [line] rest) ▸ front.append (ih ones later)

theorem preamble_eq_unlines : preamble = unlines (eventLines ++ "" :: storageLines ++ [""]) := by
  have feed : unlines [""] = "\n" := rfl
  rw [unlines_append, unlines_append, ← List.singleton_append, unlines_append, feed]
  simp only [preamble, eventHeader, storageHeader, String.append_assoc]

/-- A program comes back out of an archive. -/
theorem framed_program {statements : List Stmt} (neutral : effectAll statements = 1)
    (each : ∀ statement ∈ statements, statement.Dashless) : Archive.Framed (preamble ++ render statements) := by
  have tab : initial "\t" = some '\t' := rfl
  have level : linesEffect (eventLines ++ "" :: storageLines ++ [""]) = 1 := by
    simp only [linesEffect_append, linesEffect_cons, linesEffect_eventLines, linesEffect_storageLines, linesEffect_nil,
      Text.effect_empty, mul_one]
  rw [preamble_eq_unlines]
  exact (framed_unlines (feed_not_mem_lines level) dashless_preamble).append
    (framed_unlines (feed_not_mem_lines ((effect_linesAll rfl 0 statements).trans neutral))
      (dashless_statements tab (by decide) each))

end KernelForge.Shader
