import KernelForge.Proofs.Shader.Bracket

/-!
Staged copies in shader source. The first SIMD group of a threadgroup issues asynchronous copies in a block of its own.
A copy into threadgroup memory has to be waited for in that block, and behind the block, before it is left and before
the next such block, all threads have to meet. This is said about the lines of a text, without their indentation, and
read off the tree that the text is made from.
-/

namespace KernelForge.Shader

open Text (Effect effect turns effect_append effect_numeral)

/-! ### Lines -/

/-- A line without the tabs in front of it. -/
def bare (line : String) : String :=
  String.ofList (line.toList.dropWhile (· = '\t'))

/-- The line that opens a block of the first SIMD group. -/
def firstGroupLine : String := "if (sidx == 0) \x7b"

/-- What stands between an event and the arguments of a copy. -/
def copyMark : List Char := ['.', 'a', 's', 'y', 'n', 'c', '_', 'c', 'o', 'p', 'y', '(']

/-- The characters in front of the first call of the copy member, and those of its arguments. -/
def splitCopy : List Char → Option (List Char × List Char)
  | [] => none
  | character :: rest =>
    if copyMark.isPrefixOf (character :: rest) then some ([], (character :: rest).drop copyMark.length)
    else (splitCopy rest).map fun (front, arguments) => (character :: front, arguments)

/-- An asynchronous copy: the event that tells its end, and the pointer to its target. -/
structure Copy where
  event : String
  target : String
  deriving DecidableEq, Repr

/-- The copy that a line issues; its target is the first argument. -/
def copy? (line : String) : Option Copy :=
  (splitCopy line.toList).map fun (event, arguments) =>
    ⟨String.ofList event, String.ofList (arguments.takeWhile (· ≠ ','))⟩

/-- The copies that lines issue. -/
def copies (lines : List String) : List Copy :=
  lines.filterMap copy?

/-- A name that the arguments of a kernel function declare as a buffer in device memory. -/
def IsBuffer (arguments : List String) (name : String) : Prop :=
  ∃ (precision : Precision) (rest : String),
    "device " ++ precision.scalarName ++ " *" ++ name ++ " [[buffer(" ++ rest ∈ arguments

/-- A copy to device memory: the lines declare its target as a pointer into a buffer. Every other copy is one into
    threadgroup memory. -/
def ToDevice (arguments lines : List String) (copy : Copy) : Prop :=
  ∃ (precision : Precision) (buffer rest : String), IsBuffer arguments buffer ∧
    "auto " ++ copy.target ++ " = simdgroup_matrix_storage<" ++ precision.scalarName ++ ">::apply_offset(" ++ buffer ++
      ", " ++ rest ∈ lines

/-- The events of copies as they are waited for: the address of a single one, or an array with one for each copy. -/
def Awaited (copies : List Copy) (events : String) : Prop :=
  (∃ event, events = "&" ++ event ∧ copies.map (·.event) = [event]) ∨
    copies.map (·.event) = (List.range copies.length).map fun index => s!"{events}[{index}]"

/-- All copies of some lines are waited for by one line behind them. -/
def Waits (lines : List String) : Prop :=
  ∃ issued events rest, lines = issued ++ s!"simdgroup_event::wait({(copies issued).length}, {events});" :: rest ∧
    Awaited (copies issued) events ∧ copies rest = []

/-- Lines that start inside of a block of the first SIMD group: the block is closed, and if it issues a copy into
    threadgroup memory, it waits for its copies and a barrier follows, in the block around it and in front of the next
    block of the first SIMD group. -/
def Settled (arguments lines : List String) : Prop :=
  ∃ block after, lines = block ++ "\x7d" :: after ∧ (linesEffect block).braces = 1 ∧
    ((∃ copy ∈ copies block, ¬ ToDevice arguments block copy) →
      Waits block ∧
        ∃ between rest, after = between ++ barrierLine :: rest ∧ (linesEffect between).braces = 1 ∧
          firstGroupLine ∉ between)

/-- Every block of the first SIMD group is settled. -/
def Fenced (arguments lines : List String) : Prop :=
  ∀ before after, lines = before ++ firstGroupLine :: after → Settled arguments after

section Composition

variable {arguments : List String}

theorem Settled.append {lines : List String} (settled : Settled arguments lines) (more : List String) :
    Settled arguments (lines ++ more) := by
  obtain ⟨block, after, rfl, closed, fence⟩ := settled
  refine ⟨block, after ++ more, by simp, closed, fun copy => ?_⟩
  obtain ⟨waits, between, rest, rfl, flat, apart⟩ := fence copy
  exact ⟨waits, between, rest ++ more, by simp, flat, apart⟩

/-- Lines after each other: a block of the first ones is settled within them. -/
theorem Fenced.append {first second : List String} (left : Fenced arguments first) (right : Fenced arguments second) :
    Fenced arguments (first ++ second) := by
  intro before after same
  rcases List.append_eq_append_iff.mp same with ⟨middle, rfl, later⟩ | ⟨middle, inside, later⟩
  · exact right middle after later
  · cases middle with
    | nil => exact right [] after later.symm
    | cons line middle =>
      obtain ⟨rfl, rfl⟩ := List.cons.inj later
      exact (left before middle inside).append second

theorem fenced_of_not_mem {lines : List String} (none : firstGroupLine ∉ lines) : Fenced arguments lines := by
  rintro before after rfl
  simp at none

theorem Fenced.cons {line : String} {lines : List String} (other : firstGroupLine ≠ line)
    (fenced : Fenced arguments lines) : Fenced arguments (line :: lines) :=
  (fenced_of_not_mem (by simpa using other) : Fenced arguments [line]).append fenced

/-- A block of the first SIMD group with what follows it. -/
theorem fenced_block {block after : List String} (none : firstGroupLine ∉ block)
    (settled : Settled arguments (block ++ "\x7d" :: after)) (later : Fenced arguments after) :
    Fenced arguments (firstGroupLine :: (block ++ "\x7d" :: after)) := by
  have other : firstGroupLine ≠ "\x7d" := by decide
  rintro (_ | ⟨line, before⟩) rest same
  · obtain ⟨-, rfl⟩ := List.cons.inj same
    exact settled
  · obtain ⟨-, inside⟩ := List.cons.inj same
    exact ((fenced_of_not_mem none).append (later.cons other)) before rest inside

end Composition

/-! ### Trees -/

mutual

/-- The lines of a statement without indentation. -/
def Stmt.flat : Stmt → List String
  | .line text => [bare text]
  | .raw text => (rawLines "" 0 text).map bare
  | .blank => [""]
  | .comment text => ["// " ++ text]
  | .block header body => bare (header ++ " \x7b") :: flatAll body ++ ["\x7d"]
  | .scope body => "\x7b" :: flatAll body ++ ["\x7d"]
  | .indent body => flatAll body
  | .cond condition body => ("if (" ++ condition ++ ") \x7b") :: flatAll body ++ ["\x7d"]
  | .condElse condition body otherwise =>
    ("if (" ++ condition ++ ") \x7b") :: flatAll body ++ "\x7d else \x7b" :: flatAll otherwise ++ ["\x7d"]
  | .loop unroll header body => unroll.pragma?.toList ++ ("for (" ++ header ++ ") \x7b") :: flatAll body ++ ["\x7d"]
  | .barrier => [barrierLine]

/-- The lines of statements in a row without indentation. -/
def flatAll : List Stmt → List String
  | [] => []
  | statement :: rest => statement.flat ++ flatAll rest

end

@[simp]
theorem flatAll_append (first second : List Stmt) : flatAll (first ++ second) = flatAll first ++ flatAll second := by
  induction first with
  | nil => rfl
  | cons statement rest ih => rw [List.cons_append, flatAll, ih, flatAll, List.append_assoc]

theorem toList_indented (depth : Nat) (text : String) :
    (indented "\t" depth text).toList = List.replicate depth '\t' ++ text.toList := by
  have margin : (String.join (List.replicate depth "\t")).toList = List.replicate depth '\t' := by
    induction depth with
    | zero => rfl
    | succ depth ih =>
      rw [List.replicate_succ, String.join_cons, String.toList_append, ih]
      rfl
  rw [indented, String.toList_append, margin]

/-- Indentation does not stand in the bare line. -/
theorem bare_indented (depth : Nat) (text : String) : bare (indented "\t" depth text) = bare text := by
  rw [bare, bare, toList_indented, List.dropWhile_append_of_pos (by simp)]

/-- A text that does not start with a tab is bare. -/
theorem bare_of_initial {text : String} {first : Char} {rest : List Char} (spelled : text.toList = first :: rest)
    (other : first ≠ '\t') : bare text = text := by
  rw [bare, spelled, List.dropWhile_cons_of_neg (by simpa using other), ← spelled, String.ofList_toList]

theorem bare_rawLines (depth : Nat) (text : String) :
    (rawLines "\t" depth text).map bare = (rawLines "" 0 text).map bare := by
  have same (line : String) : bare (if (Text.trim line).isEmpty then "" else indented "\t" depth line) =
      bare (if (Text.trim line).isEmpty then "" else indented "" 0 line) := by
    split
    · rfl
    · exact bare_indented depth line
  simp only [rawLines, List.map_map, Function.comp_def, same]

/-- A line that a statement adds of its own. -/
theorem bare_fixed (depth : Nat) {front : String} {first : Char} {rest : List Char}
    (spelled : front.toList = first :: rest) (other : first ≠ '\t') (text : String) :
    bare (indented "\t" depth (front ++ text)) = front ++ text := by
  have first : (front ++ text).toList = first :: (rest ++ text.toList) := by
    rw [String.toList_append, spelled, List.cons_append]
  rw [bare_indented, bare_of_initial first other]

theorem bare_closing (depth : Nat) : bare (indented "\t" depth "\x7d") = "\x7d" := by
  rw [bare_indented]
  rfl

theorem bare_guard (depth : Nat) (condition : String) :
    bare (indented "\t" depth ("if (" ++ condition ++ ") \x7b")) = "if (" ++ condition ++ ") \x7b" := by
  rw [String.append_assoc]
  exact bare_fixed depth rfl (by decide) _

theorem bare_loop (depth : Nat) (header : String) :
    bare (indented "\t" depth ("for (" ++ header ++ ") \x7b")) = "for (" ++ header ++ ") \x7b" := by
  rw [String.append_assoc]
  exact bare_fixed depth rfl (by decide) _

theorem bare_pragma (depth : Nat) (unroll : Unroll) :
    ((unroll.pragma?.map (indented "\t" depth)).toList).map bare = unroll.pragma?.toList := by
  cases unroll with
  | none => rfl
  | full =>
    simp only [Unroll.pragma?, Option.map_some, Option.toList_some, List.map_cons, List.map_nil, bare_indented]
    rfl
  | disable =>
    simp only [Unroll.pragma?, Option.map_some, Option.toList_some, List.map_cons, List.map_nil, bare_indented]
    rfl

mutual

/-- The bare lines of a statement do not depend on the depth. -/
theorem map_bare_lines (depth : Nat) : (statement : Stmt) → (statement.lines "\t" depth).map bare = statement.flat
  | .line text => by simp only [Stmt.lines, Stmt.flat, List.map_cons, List.map_nil, bare_indented]
  | .raw text => by rw [Stmt.lines, Stmt.flat, bare_rawLines]
  | .blank => by
    rw [Stmt.lines, Stmt.flat]
    rfl
  | .comment text => by
    rw [Stmt.lines, Stmt.flat, List.map_cons, List.map_nil, bare_fixed depth rfl (by decide)]
  | .block header body => by
    have closing : bare "\x7d" = "\x7d" := rfl
    simp only [Stmt.lines, braced, Stmt.flat, List.map_cons, List.map_append, List.map_nil, List.cons_append,
      bare_indented, closing, map_bare_linesAll (depth + 1) body]
  | .scope body => by
    simp only [Stmt.lines, braced, Stmt.flat, List.map_cons, List.map_append, List.map_nil, List.cons_append,
      bare_closing, map_bare_linesAll (depth + 1) body]
    rw [bare_indented]
    rfl
  | .indent body => by rw [Stmt.lines, Stmt.flat, map_bare_linesAll]
  | .cond condition body => by
    simp only [Stmt.lines, braced, Stmt.flat, List.map_cons, List.map_append, List.map_nil, List.cons_append,
      bare_guard, bare_closing, map_bare_linesAll (depth + 1) body]
  | .condElse condition body otherwise => by
    have between : bare (indented "\t" depth "\x7d else \x7b") = "\x7d else \x7b" := by
      rw [bare_indented]
      rfl
    simp only [Stmt.lines, Stmt.flat, List.map_cons, List.map_append, List.map_nil, List.cons_append, bare_guard,
      between, bare_closing, map_bare_linesAll (depth + 1) body, map_bare_linesAll (depth + 1) otherwise]
  | .loop unroll header body => by
    simp only [Stmt.lines, braced, Stmt.flat, List.map_cons, List.map_append, List.map_nil, List.cons_append,
      List.append_assoc, bare_pragma, bare_loop, bare_closing, map_bare_linesAll (depth + 1) body]
  | .barrier => by
    rw [Stmt.lines, Stmt.flat, List.map_cons, List.map_nil, bare_indented]
    rfl

theorem map_bare_linesAll (depth : Nat) :
    (statements : List Stmt) → (linesAll "\t" depth statements).map bare = flatAll statements
  | [] => by rw [linesAll, flatAll, List.map_nil]
  | statement :: rest => by
    rw [linesAll, List.map_append, map_bare_lines depth statement, map_bare_linesAll depth rest, flatAll]

end

/-- Tabs do nothing to brackets. -/
theorem effect_bare (line : String) : effect (bare line) = effect line := by
  have margin : turns (line.toList.takeWhile (· = '\t')) = 1 := by
    generalize line.toList = characters
    induction characters with
    | nil => rfl
    | cons character rest ih =>
      by_cases tab : character = '\t'
      · rw [List.takeWhile_cons_of_pos (by simpa using tab), tab]
        exact ih
      · rw [List.takeWhile_cons_of_neg (by simpa using tab)]
        rfl
  rw [effect, bare, String.toList_ofList]
  calc turns (line.toList.dropWhile (· = '\t'))
      = turns (line.toList.takeWhile (· = '\t')) * turns (line.toList.dropWhile (· = '\t')) := by
        rw [margin, one_mul]
    _ = effect (String.ofList (line.toList.takeWhile (· = '\t')) ++
          String.ofList (line.toList.dropWhile (· = '\t'))) := by
        rw [effect_append, effect, effect, String.toList_ofList, String.toList_ofList]
    _ = effect line := by rw [← String.ofList_append, List.takeWhile_append_dropWhile, String.ofList_toList]

theorem linesEffect_flatAll (statements : List Stmt) : linesEffect (flatAll statements) = effectAll statements := by
  have same (lines : List String) : linesEffect (lines.map bare) = linesEffect lines := by
    simp only [linesEffect, List.map_map, Function.comp_def, effect_bare]
  rw [← map_bare_linesAll 0, same, effect_linesAll rfl]

/-! ### Statements that open no block of the first SIMD group -/

/-- The first character of a text. -/
def initial (text : String) : Option Char :=
  text.toList.head?

theorem initial_append (first second : String) : initial (first ++ second) = (initial first).or (initial second) := by
  rw [initial, String.toList_append, List.head?_append]
  rfl

theorem initial_literal {text : String} {first : Char} {rest : List Char}
    (spelled : text = String.ofList (first :: rest)) : initial text = some first := by
  rw [initial, spelled, String.toList_ofList]
  rfl

/-- A text that differs from one in the first character. -/
theorem ne_of_initial {text other : String} (apart : initial text ≠ initial other) : text ≠ other :=
  fun same => apart (congrArg initial same)

mutual

/-- No line of a statement opens a block of the first SIMD group, as its first character tells. -/
def Stmt.Quiet : Stmt → Prop
  | .line text => initial text ≠ some 'i' ∧ initial text ≠ some '\t'
  | .raw text => firstGroupLine ∉ (rawLines "" 0 text).map bare
  | .blank => True
  | .comment _ => True
  | .block header body => firstGroupLine ≠ bare (header ++ " \x7b") ∧ QuietAll body
  | .scope body => QuietAll body
  | .indent body => QuietAll body
  | .cond condition body => initial condition ≠ some 's' ∧ QuietAll body
  | .condElse condition body otherwise => initial condition ≠ some 's' ∧ QuietAll body ∧ QuietAll otherwise
  | .loop _ _ body => QuietAll body
  | .barrier => True

/-- Statements in a row of which none opens such a block. -/
def QuietAll : List Stmt → Prop
  | [] => True
  | statement :: rest => statement.Quiet ∧ QuietAll rest

end

@[simp]
theorem quietAll_append (first second : List Stmt) :
    QuietAll (first ++ second) ↔ QuietAll first ∧ QuietAll second := by
  induction first with
  | nil => simp [QuietAll]
  | cons statement rest ih => rw [List.cons_append, QuietAll, ih, QuietAll, and_assoc]

@[simp]
theorem quietAll_ite (condition : Prop) [Decidable condition] (first second : List Stmt) :
    QuietAll (if condition then first else second) ↔ if condition then QuietAll first else QuietAll second := by
  split <;> rfl

theorem bare_of_apart {text : String} (apart : initial text ≠ some '\t') : bare text = text := by
  rw [initial] at apart
  cases spelled : text.toList with
  | nil => rw [bare, spelled, List.dropWhile_nil, ← spelled, String.ofList_toList]
  | cons first rest =>
    rw [spelled, List.head?_cons] at apart
    exact bare_of_initial spelled fun tab => apart (congrArg some tab)

theorem bare_front {front : String} {first : Char} (spelled : initial front = some first) (other : first ≠ '\t')
    (text : String) : bare (front ++ text) = front ++ text := by
  apply bare_of_apart
  rw [initial_append, spelled, Option.some_or]
  exact fun same => other (Option.some.inj same)

/-- A guard with another condition. -/
theorem guard_ne {condition : String} (other : initial condition ≠ some 's') :
    firstGroupLine ≠ "if (" ++ condition ++ ") \x7b" := by
  intro same
  apply other
  have spelled : firstGroupLine = "if (" ++ "sidx == 0" ++ ") \x7b" := rfl
  rw [spelled] at same
  have inner := congrArg String.toList same
  simp only [String.toList_append, List.append_cancel_left_eq, List.append_cancel_right_eq] at inner
  rw [initial, ← inner]
  rfl

mutual

theorem Stmt.Quiet.not_mem : {statement : Stmt} → statement.Quiet → firstGroupLine ∉ statement.flat
  | .line text, quiet => by
    rw [Stmt.Quiet] at quiet
    rw [Stmt.flat, List.mem_singleton, bare_of_apart quiet.2]
    exact ne_of_initial quiet.1.symm
  | .raw text, quiet => by
    rw [Stmt.Quiet] at quiet
    rwa [Stmt.flat]
  | .blank, _ => by
    rw [Stmt.flat, List.mem_singleton]
    decide
  | .comment text, _ => by
    rw [Stmt.flat, List.mem_singleton]
    apply ne_of_initial
    have slash : initial "// " = some '/' := rfl
    rw [initial_append, slash, Option.some_or]
    decide
  | .block header body, quiet => by
    rw [Stmt.Quiet] at quiet
    rw [Stmt.flat]
    have closing : firstGroupLine ≠ "\x7d" := by decide
    simpa [quiet.1, closing] using QuietAll.not_mem quiet.2
  | .scope body, quiet => by
    rw [Stmt.Quiet] at quiet
    have opening : firstGroupLine ≠ "\x7b" := by decide
    have closing : firstGroupLine ≠ "\x7d" := by decide
    simpa [Stmt.flat, opening, closing] using QuietAll.not_mem quiet
  | .indent body, quiet => by
    rw [Stmt.Quiet] at quiet
    rw [Stmt.flat]
    exact QuietAll.not_mem quiet
  | .cond condition body, quiet => by
    rw [Stmt.Quiet] at quiet
    have closing : firstGroupLine ≠ "\x7d" := by decide
    simpa [Stmt.flat, guard_ne quiet.1, closing] using QuietAll.not_mem quiet.2
  | .condElse condition body otherwise, quiet => by
    rw [Stmt.Quiet] at quiet
    have between : firstGroupLine ≠ "\x7d else \x7b" := by decide
    have closing : firstGroupLine ≠ "\x7d" := by decide
    simpa [Stmt.flat, guard_ne quiet.1, between, closing] using
      And.intro (QuietAll.not_mem quiet.2.1) (QuietAll.not_mem quiet.2.2)
  | .loop unroll header body, quiet => by
    rw [Stmt.Quiet] at quiet
    have pragma : firstGroupLine ∉ unroll.pragma?.toList := by cases unroll <;> decide
    have opening : firstGroupLine ≠ "for (" ++ header ++ ") \x7b" := by
      apply ne_of_initial
      have keyword : initial "for (" = some 'f' := rfl
      rw [initial_append, initial_append, keyword, Option.some_or, Option.some_or]
      decide
    have closing : firstGroupLine ≠ "\x7d" := by decide
    simpa [Stmt.flat, pragma, opening, closing] using QuietAll.not_mem quiet
  | .barrier, _ => by
    rw [Stmt.flat, List.mem_singleton]
    decide

theorem QuietAll.not_mem : {statements : List Stmt} → QuietAll statements → firstGroupLine ∉ flatAll statements
  | [], _ => by simp [flatAll]
  | statement :: rest, quiet => by
    rw [QuietAll] at quiet
    rw [flatAll, List.mem_append, not_or]
    exact ⟨Stmt.Quiet.not_mem quiet.1, QuietAll.not_mem quiet.2⟩

end

/-! ### Copies of a text -/

theorem splitCopy_of_not_mem {characters : List Char} (dotless : '.' ∉ characters) : splitCopy characters = none := by
  induction characters with
  | nil => rfl
  | cons character rest ih =>
    obtain ⟨other, later⟩ := List.ne_and_not_mem_of_not_mem_cons dotless
    have apart : copyMark.isPrefixOf (character :: rest) = false := by
      simp [copyMark, List.isPrefixOf, other]
    rw [splitCopy, apart, if_neg Bool.false_ne_true, ih later, Option.map_none]

theorem splitCopy_append {front : List Char} (dotless : '.' ∉ front) (arguments : List Char) :
    splitCopy (front ++ (copyMark ++ arguments)) = some (front, arguments) := by
  induction front with
  | nil =>
    have mark : copyMark.isPrefixOf (copyMark ++ arguments) = true := by simp
    have spelled : copyMark ++ arguments = '.' :: (copyMark.tail ++ arguments) := rfl
    rw [List.nil_append, spelled, splitCopy, ← spelled, mark, if_pos rfl, List.drop_left]
  | cons character rest ih =>
    obtain ⟨other, later⟩ := List.ne_and_not_mem_of_not_mem_cons dotless
    have apart : copyMark.isPrefixOf (character :: (rest ++ (copyMark ++ arguments))) = false := by
      simp [copyMark, List.isPrefixOf, other]
    rw [List.cons_append, splitCopy, apart, if_neg Bool.false_ne_true, ih later, Option.map_some]

/-- A line without a dot issues no copy. -/
theorem copy?_of_dotless {line : String} (dotless : Text.Within (· ≠ '.') line) : copy? line = none := by
  rw [copy?, splitCopy_of_not_mem (dotless.not_mem rfl), Option.map_none]

theorem within_bare {inside : Char → Bool} {line : String} (within : Text.Within inside line) :
    Text.Within inside (bare line) := by
  intro character member
  rw [bare, String.toList_ofList] at member
  exact within character (List.dropWhile_subset _ member)

/-- A line that issues a copy. -/
theorem copy?_issue {event target : String} (dotless : '.' ∉ event.toList) (apart : initial event ≠ some '\t')
    (single : ',' ∉ target.toList) (rest : String) :
    copy? (bare (event ++ (".async_copy(" ++ (target ++ (", " ++ rest))))) = some ⟨event, target⟩ := by
  have mark : ".async_copy(".toList = copyMark := rfl
  have comma : ", ".toList = [',', ' '] := rfl
  have first : initial (event ++ (".async_copy(" ++ (target ++ (", " ++ rest)))) ≠ some '\t' := by
    have dot : initial ".async_copy(" = some '.' := rfl
    rw [initial_append, initial_append, dot]
    cases letter : initial event with
    | none =>
      rw [Option.none_or, Option.some_or]
      decide
    | some character => rwa [Option.some_or, ← letter]
  have argument : (target.toList ++ ([',', ' '] ++ rest.toList)).takeWhile (· ≠ ',') = target.toList := by
    rw [List.takeWhile_append_of_pos]
    · simp
    · intro character member
      rw [decide_eq_true_iff]
      rintro rfl
      exact single member
  rw [bare_of_apart first, copy?, String.toList_append, String.toList_append, mark, splitCopy_append dotless,
    Option.map_some, String.toList_append, String.toList_append, comma]
  dsimp only
  rw [argument, String.ofList_toList, String.ofList_toList]

theorem copies_append (first second : List String) : copies (first ++ second) = copies first ++ copies second :=
  List.filterMap_append

theorem copies_cons_none {line : String} (none : copy? line = none) (lines : List String) :
    copies (line :: lines) = copies lines :=
  List.filterMap_cons_none none

theorem copies_cons_some {line : String} {copy : Copy} (issues : copy? line = some copy) (lines : List String) :
    copies (line :: lines) = copy :: copies lines :=
  List.filterMap_cons_some issues

/-- A fixed line that issues no copy, and what comes behind it. -/
theorem copies_skip {text : String} {characters : List Char} (spelled : text = String.ofList characters)
    (silent : splitCopy (characters.dropWhile (· = '\t')) = none) (rest : List Stmt) :
    copies (flatAll (.line text :: rest)) = copies (flatAll rest) := by
  have none : copy? (bare text) = none := by
    rw [copy?, bare, spelled, String.toList_ofList, String.toList_ofList, silent, Option.map_none]
  rw [flatAll, Stmt.flat, copies_append, copies_cons_none none]
  rfl

theorem copies_skip_dotless {text : String} (dotless : Text.Within (· ≠ '.') text) (rest : List Stmt) :
    copies (flatAll (.line text :: rest)) = copies (flatAll rest) := by
  rw [flatAll, Stmt.flat, copies_append, copies_cons_none (copy?_of_dotless (within_bare dotless))]
  rfl

theorem copies_skip_blank (rest : List Stmt) : copies (flatAll (.blank :: rest)) = copies (flatAll rest) := by
  rw [flatAll, Stmt.flat, copies_append]
  rfl

theorem copies_skip_comment {text : String} {characters : List Char} (spelled : text = String.ofList characters)
    (silent : splitCopy ('/' :: '/' :: ' ' :: characters) = none) (rest : List Stmt) :
    copies (flatAll (.comment text :: rest)) = copies (flatAll rest) := by
  have spread : ("// " ++ text).toList = '/' :: '/' :: ' ' :: characters := by
    rw [String.toList_append, spelled, @String.toList_ofList characters]
    rfl
  have nothing : copy? ("// " ++ text) = none := by
    rw [copy?, spread, silent, Option.map_none]
  rw [flatAll, Stmt.flat, copies_append, copies_cons_none nothing]
  rfl

/-- A guard with a fixed condition: the copies are those of its body. -/
theorem copies_cond {condition : String} {characters : List Char} (spelled : condition = String.ofList characters)
    (silent : splitCopy ('i' :: 'f' :: ' ' :: '(' :: (characters ++ [')', ' ', '\x7b'])) = none)
    (body rest : List Stmt) :
    copies (flatAll (.cond condition body :: rest)) = copies (flatAll body) ++ copies (flatAll rest) := by
  have spread : ("if (" ++ condition ++ ") \x7b").toList =
      'i' :: 'f' :: ' ' :: '(' :: (characters ++ [')', ' ', '\x7b']) := by
    rw [String.append_assoc, String.toList_append, String.toList_append, spelled, @String.toList_ofList characters]
    rfl
  have nothing : copy? ("if (" ++ condition ++ ") \x7b") = none := by
    rw [copy?, spread, silent, Option.map_none]
  have closing : copies ["\x7d"] = [] := rfl
  rw [flatAll, Stmt.flat, copies_append, copies_append, copies_cons_none nothing, closing, List.append_nil]

theorem dotless_word (number : UInt16) : Text.Within (· ≠ '.') (toString number) :=
  (Text.within_numeral _).ne rfl

/-- A line without a dot, or an empty one. -/
def Stmt.Dotless : Stmt → Prop
  | .line text => Text.Within (· ≠ '.') text
  | .blank => True
  | _ => False

theorem copies_of_dotless {statements : List Stmt} (dotless : ∀ statement ∈ statements, statement.Dotless) :
    copies (flatAll statements) = [] := by
  induction statements with
  | nil => rfl
  | cons statement rest ih =>
    obtain ⟨first, later⟩ := List.forall_mem_cons.mp dotless
    cases statement with
    | line text => rw [copies_skip_dotless first, ih later]
    | blank => rw [copies_skip_blank, ih later]
    | _ => exact first.elim

/-- Statements in front of the copies. -/
theorem copies_drop {body : List Stmt} (count : Nat) (dotless : ∀ statement ∈ body.take count, statement.Dotless) :
    copies (flatAll body) = copies (flatAll (body.drop count)) := by
  rw [← List.take_append_drop count body, flatAll_append, copies_append, copies_of_dotless dotless, List.nil_append,
    List.take_append_drop]

/-- A line that issues a copy, and what comes behind it. -/
theorem copies_issue {text : String} (event target : String)
    (spelled : ∃ after, text = event ++ (".async_copy(" ++ (target ++ (", " ++ after))))
    (dotless : '.' ∉ event.toList) (apart : initial event ≠ some '\t') (single : ',' ∉ target.toList)
    (rest : List Stmt) : copies (flatAll (.line text :: rest)) = ⟨event, target⟩ :: copies (flatAll rest) := by
  obtain ⟨after, rfl⟩ := spelled
  rw [flatAll, Stmt.flat, copies_append, copies_cons_some (copy?_issue dotless apart single after)]
  rfl

/-- As `copies_issue`, for a line with a fixed front. -/
theorem copies_cons (front event target : String) (spelled : front = event ++ ".async_copy(" ++ target ++ ", ")
    (dotless : '.' ∉ event.toList) (apart : initial event ≠ some '\t') (single : ',' ∉ target.toList)
    (after : String) (rest : List Stmt) :
    copies (flatAll (.line (front ++ after) :: rest)) = ⟨event, target⟩ :: copies (flatAll rest) :=
  copies_issue event target ⟨after, by rw [spelled, String.append_assoc, String.append_assoc, String.append_assoc]⟩
    dotless apart single rest

/-- Statements that end with the line that waits for their copies. -/
theorem waits_of_last {body : List Stmt} (found : List Copy) (events : String) (issued : copies (flatAll body) = found)
    (last : body.getLast? = some (.line s!"simdgroup_event::wait({found.length}, {events});"))
    (dotless : Text.Within (· ≠ '.') events) (awaited : Awaited found events) : Waits (flatAll body) := by
  obtain ⟨front, rfl⟩ := List.getLast?_eq_some_iff.mp last
  have letter : initial "simdgroup_event::wait(" = some 's' := rfl
  have bared : bare s!"simdgroup_event::wait({found.length}, {events});" =
      s!"simdgroup_event::wait({found.length}, {events});" := by
    apply bare_of_apart
    simp only [Text.toString_self, initial_append, letter, Option.some_or]
    decide
  have silent : copies (flatAll [.line s!"simdgroup_event::wait({found.length}, {events});"]) = [] := by
    apply copies_of_dotless
    simp only [List.forall_mem_singleton, Stmt.Dotless, Text.toString_self, Text.within_append]
    exact ⟨⟨⟨⟨by decide, (Text.within_numeral _).ne rfl⟩, by decide⟩, dotless⟩, by decide⟩
  rw [flatAll_append, copies_append, silent, List.append_nil] at issued
  refine ⟨flatAll front, events, [], ?_, by rwa [issued], rfl⟩
  rw [issued, flatAll_append, flatAll, flatAll, Stmt.flat, bared, List.append_nil]

/-- One copy, and the line that waits for it. -/
theorem waits_one {body : List Stmt} (target : String) (issued : copies (flatAll body) = [⟨"event", target⟩])
    (last : body.getLast? = some (.line "simdgroup_event::wait(1, &event);")) : Waits (flatAll body) := by
  have spelled (count : Nat) (events : String) (one : count = 1) (named : events = "&event") :
      "simdgroup_event::wait(1, &event);" = s!"simdgroup_event::wait({count}, {events});" := by
    subst one named
    decide
  rw [spelled 1 "&event" rfl rfl] at last
  exact waits_of_last [⟨"event", target⟩] "&event" issued last (by decide) (.inl ⟨"event", rfl, rfl⟩)

/-- Two copies, and the line that waits for both. -/
theorem waits_two {body : List Stmt} (first second : String)
    (issued : copies (flatAll body) = [⟨"events[0]", first⟩, ⟨"events[1]", second⟩])
    (last : body.getLast? = some (.line "simdgroup_event::wait(2, events);")) : Waits (flatAll body) := by
  have spelled (count : Nat) (events : String) (two : count = 2) (named : events = "events") :
      "simdgroup_event::wait(2, events);" = s!"simdgroup_event::wait({count}, {events});" := by
    subst two named
    decide
  have names (events : String) (named : events = "events") :
      ["events[0]", "events[1]"] = (List.range 2).map fun index => s!"{events}[{index}]" := by
    subst named
    decide
  rw [spelled 2 "events" rfl rfl] at last
  exact waits_of_last [⟨"events[0]", first⟩, ⟨"events[1]", second⟩] "events" issued last (by decide)
    (.inr (names "events" rfl))

/-! ### Statements whose copies are fenced -/

/-- The copies of statements in a row are fenced. -/
def Fences (arguments : List String) (statements : List Stmt) : Prop :=
  Fenced arguments (flatAll statements)

section Fences

variable {arguments : List String}

theorem QuietAll.fences {statements : List Stmt} (quiet : QuietAll statements) : Fences arguments statements :=
  fenced_of_not_mem quiet.not_mem

theorem Fences.append {first second : List Stmt} (left : Fences arguments first) (right : Fences arguments second) :
    Fences arguments (first ++ second) := by
  rw [Fences, flatAll_append]
  exact Fenced.append left right

theorem Fences.cons {statement : Stmt} {rest : List Stmt} (first : Fences arguments [statement])
    (later : Fences arguments rest) : Fences arguments (statement :: rest) :=
  first.append later

/-- An opening line, lines and a closing brace. -/
theorem Fenced.braced {lines : List String} (inner : Fenced arguments lines) {opening : String}
    (other : firstGroupLine ≠ opening) : Fenced arguments (opening :: lines ++ ["\x7d"]) :=
  (inner.append (fenced_of_not_mem (by decide))).cons other

theorem Fences.scope {body : List Stmt} (inner : Fences arguments body) : Fences arguments [.scope body] := by
  rw [Fences, flatAll, flatAll, List.append_nil, Stmt.flat]
  exact Fenced.braced inner (by decide)

theorem Fences.cond {condition : String} (other : initial condition ≠ some 's') {body : List Stmt}
    (inner : Fences arguments body) : Fences arguments [.cond condition body] := by
  rw [Fences, flatAll, flatAll, List.append_nil, Stmt.flat]
  exact Fenced.braced inner (guard_ne other)

theorem Fences.condElse {condition : String} (other : initial condition ≠ some 's') {body otherwise : List Stmt}
    (first : Fences arguments body) (second : Fences arguments otherwise) :
    Fences arguments [.condElse condition body otherwise] := by
  rw [Fences, flatAll, flatAll, List.append_nil, Stmt.flat, List.append_assoc]
  exact (Fenced.append first (Fenced.braced second (by decide))).cons (guard_ne other)

theorem Fences.loop {body : List Stmt} (inner : Fences arguments body) (unroll : Unroll) (header : String) :
    Fences arguments [.loop unroll header body] := by
  have keyword : initial "for (" = some 'f' := rfl
  have opening : firstGroupLine ≠ "for (" ++ header ++ ") \x7b" := by
    apply ne_of_initial
    rw [initial_append, initial_append, keyword, Option.some_or, Option.some_or]
    decide
  rw [Fences, flatAll, flatAll, List.append_nil, Stmt.flat, List.append_assoc]
  exact Fenced.append (fenced_of_not_mem (by cases unroll <;> decide)) (Fenced.braced inner opening)

/-- Where the lines of a block of the first SIMD group end. -/
theorem flatAll_firstGroup (body rest : List Stmt) :
    flatAll (.cond "sidx == 0" body :: rest) = firstGroupLine :: (flatAll body ++ "\x7d" :: flatAll rest) := by
  rw [flatAll, Stmt.flat, List.cons_append, List.cons_append, List.append_assoc]
  rfl

variable {body : List Stmt} (neutral : effectAll body = 1) (quiet : QuietAll body)

include neutral quiet

/-- A block with one copy, to device memory. -/
theorem fences_outward (copy : Copy) (issued : copies (flatAll body) = [copy])
    (outward : ToDevice arguments (flatAll body) copy) : Fences arguments [.cond "sidx == 0" body] := by
  rw [Fences, flatAll_firstGroup]
  refine fenced_block quiet.not_mem ⟨flatAll body, [], rfl, ?_, ?_⟩ (fenced_of_not_mem List.not_mem_nil)
  · rw [linesEffect_flatAll, neutral]
    rfl
  · rintro ⟨other, member, inward⟩
    rw [issued, List.mem_singleton] at member
    subst member
    exact absurd outward inward

/-- A block that waits for its copies, and a barrier behind it. -/
theorem fences_waiting (waits : Waits (flatAll body)) {between : List Stmt} (apart : QuietAll between)
    (level : effectAll between = 1) : Fences arguments (.cond "sidx == 0" body :: between ++ [.barrier]) := by
  rw [Fences, List.cons_append, flatAll_firstGroup]
  have barrier : flatAll (between ++ [.barrier]) = flatAll between ++ barrierLine :: [] := by
    rw [flatAll_append, flatAll, flatAll, Stmt.flat]
    rfl
  refine fenced_block quiet.not_mem
    ⟨flatAll body, _, rfl, ?_, fun _ => ⟨waits, flatAll between, [], barrier, ?_, ?_⟩⟩ ?_
  · rw [linesEffect_flatAll, neutral]
    rfl
  · rw [linesEffect_flatAll, level]
    rfl
  · exact apart.not_mem
  · rw [barrier]
    exact (fenced_of_not_mem apart.not_mem).append (fenced_of_not_mem (by decide))

theorem fences_staged (waits : Waits (flatAll body)) : Fences arguments (staged body) :=
  have nothing : QuietAll [] := trivial
  fences_waiting neutral quiet waits nothing rfl

theorem fences_fenced (waits : Waits (flatAll body)) {between : List Stmt} (apart : QuietAll between)
    (level : effectAll between = 1) : Fences arguments (fenced body between) :=
  Fences.cons (QuietAll.fences ⟨trivial, trivial⟩) (fences_waiting neutral quiet waits apart level)

end Fences

/-! ### The kernel function of a text -/

/-- The lines between the braces of the kernel function that ends a text. -/
def IsFunctionBody (source name : String) (arguments body : List String) : Prop :=
  (∃ front, source = front ++ render (kernelHead name arguments) ++ unlines ("\x7b" :: body ++ ["\x7d"])) ∧
    ∀ line ∈ body, '\n' ∉ line.toList

theorem unlines_append (first second : List String) : unlines (first ++ second) = unlines first ++ unlines second := by
  have after : ∀ text, second.foldl (fun text line => text ++ line ++ "\n") text = text ++ unlines second := by
    unfold unlines
    induction second with
    | nil => simp
    | cons line rest ih =>
      intro text
      rw [List.foldl_cons, ih, List.foldl_cons, ih ("" ++ line ++ "\n"), String.empty_append]
      simp only [String.append_assoc]
  rw [unlines, List.foldl_append, after]
  rfl

theorem linesAll_append (unit : String) (depth : Nat) (first second : List Stmt) :
    linesAll unit depth (first ++ second) = linesAll unit depth first ++ linesAll unit depth second := by
  induction first with
  | nil => rw [List.nil_append, linesAll, List.nil_append]
  | cons statement rest ih => rw [List.cons_append, linesAll, ih, linesAll, List.append_assoc]

/-- The kernel function at the end of a tree. -/
theorem isFunctionBody_render (front : List Stmt) (name : String) (arguments : List String) {body : List Stmt}
    (neutral : effectAll body = 1) :
    IsFunctionBody (preamble ++ render (front ++ kernelHead name arguments ++ [.scope body])) name arguments
      (linesAll "\t" 1 body) := by
  refine ⟨⟨preamble ++ render front, ?_⟩, feed_not_mem_lines ((effect_linesAll rfl 1 body).trans neutral)⟩
  have last : linesAll "\t" 0 [.scope body] = "\x7b" :: linesAll "\t" 1 body ++ ["\x7d"] := by
    rw [linesAll, linesAll, Stmt.lines, braced, List.append_nil]
    rfl
  simp only [render, linesAll_append, unlines_append, last, String.append_assoc]

end KernelForge.Shader
