import KernelForge.Proofs.Shader.Margin
import KernelForge.Proofs.Text.Trim
import KernelForge.Shader.Writer

/-!
What a writer leaves behind. Every call appends lines that depend only on how deep it is made, and counts down what it
counted up, so a tree of calls writes the text of the tree. Its lines are those of the calls, each behind as many tabs
as the call is deep, and its braces are those that the calls put around bodies.
-/

namespace KernelForge.Shader

open Text (Effect)

/-! ### Calls -/

namespace Writer

/-- A writer with lines behind what it wrote. -/
def appended (writer : Writer) (lines : List String) : Writer :=
  writer.put (unlines lines)

theorem appended_nil (writer : Writer) : writer.appended [] = writer := by
  rw [appended, put, unlines, List.foldl_nil, String.append_empty]

theorem appended_appended (writer : Writer) (first second : List String) :
    (writer.appended first).appended second = writer.appended (first ++ second) := by
  simp only [appended, put, unlines_append, String.append_assoc]

/-- A call appends lines that depend on the indentation, and keeps the indentation. -/
def Writes (call : Writer → Writer) (lines : Nat → List String) : Prop :=
  ∀ writer, call writer = writer.appended (lines writer.indent)

theorem writes_id : Writes id fun _ => [] :=
  fun writer => writer.appended_nil.symm

theorem Writes.andThen {first second : Writer → Writer} {front behind : Nat → List String} (left : Writes first front)
    (right : Writes second behind) :
    Writes (fun writer => second (first writer)) fun depth => front depth ++ behind depth := by
  intro writer
  dsimp only
  rw [left, right, appended_appended]
  rfl

theorem writes_blank : Writes blank fun _ => [""] :=
  fun _ => rfl

theorem repeat_put (text : String) (count : Nat) (writer : Writer) :
    Nat.repeat (put text) count writer = writer.put (String.join (List.replicate count text)) := by
  induction count with
  | zero => simp [Nat.repeat, put]
  | succ count ih =>
    rw [Nat.repeat, ih, List.replicate_succ', String.join_append]
    simp only [put, String.append_assoc, String.join_cons, String.join_nil, String.append_empty]

theorem writes_line (text : String) : Writes (line text) fun depth => [indented "\t" depth text] := by
  intro writer
  rw [line, repeat_put]
  simp only [appended, unlines, put, indented, List.foldl_cons, List.foldl_nil, String.empty_append,
    String.append_assoc]

theorem writes_raw (text : String) : Writes (raw text) (rawLines "\t" · text) := by
  intro writer
  unfold raw rawLines
  generalize Text.pieces '\n' (Text.dropEnding "\n" text) = pieces
  induction pieces generalizing writer with
  | nil => exact writer.appended_nil.symm
  | cons piece rest ih =>
    dsimp only at ih ⊢
    rw [List.foldl_cons, List.map_cons]
    split
    · rw [writes_blank, ih, appended_appended]
      rfl
    · rw [writes_line, ih, appended_appended]
      rfl

section Bodies

variable {body otherwise : Writer → Writer} {inner other : Nat → List String} (first : Writes body inner)

include first

/-- Whatever a body appends, it is counted down by what was counted up for it. -/
theorem Writes.deeper : Writes (deeper body) fun depth => inner (depth + 1) := by
  intro writer
  rw [Writer.deeper, first]
  rfl

theorem Writes.braced (opening : String) : Writes (fun writer => ((writer.line opening).deeper body).line "\x7d")
    fun depth => indented "\t" depth opening :: inner (depth + 1) ++ [indented "\t" depth "\x7d"] :=
  ((writes_line opening).andThen first.deeper).andThen (writes_line "\x7d")

theorem Writes.cond (condition : String) : Writes (cond condition body)
    fun depth => indented "\t" depth ("if (" ++ condition ++ ") \x7b") :: inner (depth + 1) ++
      [indented "\t" depth "\x7d"] := by
  have opening : "if (" ++ condition ++ ")" ++ " \x7b" = "if (" ++ condition ++ ") \x7b" := by
    rw [String.append_assoc]
    rfl
  rw [← opening]
  exact first.braced _

theorem Writes.condElse (second : Writes otherwise other) (condition : String) :
    Writes (condElse condition body otherwise)
      fun depth => indented "\t" depth ("if (" ++ condition ++ ") \x7b") :: inner (depth + 1) ++
        indented "\t" depth "\x7d else \x7b" :: other (depth + 1) ++ [indented "\t" depth "\x7d"] := by
  have whole := ((((writes_line ("if (" ++ condition ++ ") \x7b")).andThen first.deeper).andThen
    (writes_line "\x7d else \x7b")).andThen second.deeper).andThen (writes_line "\x7d")
  intro writer
  simpa only [Writer.condElse, List.cons_append, List.nil_append, List.append_assoc] using whole writer

theorem Writes.loop (unroll : Unroll) (header : String) : Writes (loop unroll header body)
    fun depth => (unroll.pragma?.map (indented "\t" depth)).toList ++
      (indented "\t" depth ("for (" ++ header ++ ") \x7b") :: inner (depth + 1) ++ [indented "\t" depth "\x7d"]) := by
  have opening : "for (" ++ header ++ ")" ++ " \x7b" = "for (" ++ header ++ ") \x7b" := by
    rw [String.append_assoc]
    rfl
  have block := first.braced ("for (" ++ header ++ ")" ++ " \x7b")
  rw [← opening]
  unfold Writer.loop
  cases unroll.pragma? with
  | none => exact block
  | some pragma => exact (writes_line pragma).andThen block

end Bodies

end Writer

open Writer (Writes)

mutual

/-- The call of a statement appends the lines of the statement. -/
theorem Stmt.writes_write : (statement : Stmt) → Writes statement.write (statement.lines "\t" ·)
  | .line text => by
    simp only [Stmt.write, Stmt.lines]
    exact Writer.writes_line text
  | .raw text => by
    simp only [Stmt.write, Stmt.lines]
    exact Writer.writes_raw text
  | .blank => by
    simp only [Stmt.write, Stmt.lines]
    exact Writer.writes_blank
  | .comment text => by
    simp only [Stmt.write, Stmt.lines]
    exact Writer.writes_line ("// " ++ text)
  | .block header body => by
    simp only [Stmt.write, Stmt.lines, braced]
    exact (writes_writeAll body).braced (header ++ " \x7b")
  | .scope body => by
    simp only [Stmt.write, Stmt.lines, braced]
    exact (writes_writeAll body).braced "\x7b"
  | .indent body => by
    simp only [Stmt.write, Stmt.lines]
    exact (writes_writeAll body).deeper
  | .cond condition body => by
    simp only [Stmt.write, Stmt.lines, braced]
    exact (writes_writeAll body).cond condition
  | .condElse condition body otherwise => by
    simp only [Stmt.write, Stmt.lines]
    exact (writes_writeAll body).condElse (writes_writeAll otherwise) condition
  | .loop unroll header body => by
    simp only [Stmt.write, Stmt.lines, braced]
    exact (writes_writeAll body).loop unroll header
  | .barrier => by
    simp only [Stmt.write, Stmt.lines]
    exact Writer.writes_line barrierLine

theorem writes_writeAll : (statements : List Stmt) → Writes (writeAll statements) (linesAll "\t" · statements)
  | [] => by
    simp only [writeAll, linesAll]
    exact Writer.writes_id
  | statement :: rest => by
    simp only [writeAll, linesAll]
    exact statement.writes_write.andThen (writes_writeAll rest)

end

/-- A tree of calls writes the text of the tree. -/
theorem writeAll_eq (statements : List Stmt) (writer : Writer) :
    writeAll statements writer = writer.put (render statements writer.indent) :=
  writes_writeAll statements writer

/-! ### Lines -/

/-- A line that a call writes: an empty one, or a text as deep as the call is. -/
inductive Outlined
  | blank
  | filled (depth : Nat) (text : String)
  deriving DecidableEq, Repr

/-- A line as it stands in a text that starts at an indentation: a text stands behind a tab for each level. -/
def Outlined.placed (start : Nat) : Outlined → String
  | .blank => ""
  | .filled depth text => String.ofList (List.replicate (start + depth) '\t') ++ text

mutual

/-- The lines that the call of a statement writes, with those of its bodies, which are one level deeper. -/
def Stmt.outline (depth : Nat) : Stmt → List Outlined
  | .line text => [.filled depth text]
  | .raw text =>
    (Text.pieces '\n' (Text.dropEnding "\n" text)).map fun line =>
      if (Text.trim line).isEmpty then .blank else .filled depth line
  | .blank => [.blank]
  | .comment text => [.filled depth ("// " ++ text)]
  | .block header body => .filled depth (header ++ " \x7b") :: outlineAll (depth + 1) body ++ [.filled depth "\x7d"]
  | .scope body => .filled depth "\x7b" :: outlineAll (depth + 1) body ++ [.filled depth "\x7d"]
  | .indent body => outlineAll (depth + 1) body
  | .cond condition body =>
    .filled depth ("if (" ++ condition ++ ") \x7b") :: outlineAll (depth + 1) body ++ [.filled depth "\x7d"]
  | .condElse condition body otherwise =>
    .filled depth ("if (" ++ condition ++ ") \x7b") :: outlineAll (depth + 1) body ++
      .filled depth "\x7d else \x7b" :: outlineAll (depth + 1) otherwise ++ [.filled depth "\x7d"]
  | .loop unroll header body =>
    (unroll.pragma?.map (.filled depth)).toList ++
      .filled depth ("for (" ++ header ++ ") \x7b") :: outlineAll (depth + 1) body ++ [.filled depth "\x7d"]
  | .barrier => [.filled depth barrierLine]

/-- The lines that the calls of statements in a row write. -/
def outlineAll (depth : Nat) : List Stmt → List Outlined
  | [] => []
  | statement :: rest => statement.outline depth ++ outlineAll depth rest

end

theorem indented_tabs (depth : Nat) (text : String) :
    indented "\t" depth text = String.ofList (List.replicate depth '\t') ++ text := by
  have tabs : String.join (List.replicate depth "\t") = String.ofList (List.replicate depth '\t') := by
    induction depth with
    | zero => rfl
    | succ depth ih =>
      have tab : "\t" = String.ofList ['\t'] := rfl
      rw [List.replicate_succ, String.join_cons, ih, List.replicate_succ, tab, ← String.ofList_append]
      rfl
  rw [indented, tabs]

theorem indented_eq_placed (start depth : Nat) (text : String) :
    indented "\t" (start + depth) text = (Outlined.filled depth text).placed start :=
  indented_tabs (start + depth) text

mutual

theorem Stmt.lines_eq_outline (start depth : Nat) : (statement : Stmt) →
    statement.lines "\t" (start + depth) = (statement.outline depth).map (Outlined.placed start)
  | .line _ | .comment _ | .barrier => by simp [Stmt.lines, Stmt.outline, indented_eq_placed]
  | .blank => by simp [Stmt.lines, Stmt.outline, Outlined.placed]
  | .raw text => by
    rw [Stmt.lines, Stmt.outline, rawLines, List.map_map]
    refine List.map_congr_left fun line _ => ?_
    rw [Function.comp_apply, apply_ite (Outlined.placed start), indented_eq_placed, Outlined.placed]
  | .block _ body | .scope body | .cond _ body => by
    simp [Stmt.lines, Stmt.outline, braced, indented_eq_placed, Nat.add_assoc,
      linesAll_eq_outline start (depth + 1) body]
  | .indent body => by
    simp [Stmt.lines, Stmt.outline, Nat.add_assoc, linesAll_eq_outline start (depth + 1) body]
  | .condElse _ body otherwise => by
    simp [Stmt.lines, Stmt.outline, indented_eq_placed, Nat.add_assoc, linesAll_eq_outline start (depth + 1) body,
      linesAll_eq_outline start (depth + 1) otherwise]
  | .loop unroll _ body => by
    cases unroll <;>
      simp [Stmt.lines, Stmt.outline, Unroll.pragma?, braced, indented_eq_placed, Nat.add_assoc,
        linesAll_eq_outline start (depth + 1) body]

theorem linesAll_eq_outline (start depth : Nat) : (statements : List Stmt) →
    linesAll "\t" (start + depth) statements = (outlineAll depth statements).map (Outlined.placed start)
  | [] => by simp [linesAll, outlineAll]
  | statement :: rest => by
    rw [linesAll, outlineAll, List.map_append, statement.lines_eq_outline start depth,
      linesAll_eq_outline start depth rest]

end

/-- Lines that are one line each are the pieces of their text. Behind the last line feed is an empty piece. -/
theorem pieces_unlines {lines : List String} (single : ∀ line ∈ lines, '\n' ∉ line.toList) :
    Text.pieces '\n' (unlines lines) = lines ++ [""] := by
  induction lines with
  | nil => rfl
  | cons line rest ih =>
    obtain ⟨one, ones⟩ := List.forall_mem_cons.mp single
    have split : unlines (line :: rest) = line ++ String.singleton '\n' ++ unlines rest := by
      rw [← List.singleton_append, unlines_append, unlines, List.foldl_cons, List.foldl_nil, String.empty_append]
      rfl
    rw [split, Text.pieces_append one, ih ones, List.cons_append]

/-! ### Texts of calls -/

mutual

/-- The texts that a call is given, with those of its bodies. Fragments of several lines are left out if they are not
    asked for. -/
def Stmt.texts (fragments : Bool) : Stmt → List String
  | .line text | .comment text => [text]
  | .raw text => if fragments then [text] else []
  | .blank | .barrier => []
  | .block header body | .cond header body | .loop _ header body => header :: textsAll fragments body
  | .scope body | .indent body => textsAll fragments body
  | .condElse condition body otherwise => condition :: textsAll fragments body ++ textsAll fragments otherwise

/-- The texts that the calls of statements in a row are given. -/
def textsAll (fragments : Bool) : List Stmt → List String
  | [] => []
  | statement :: rest => statement.texts fragments ++ textsAll fragments rest

end

/-- What plain texts do to the brackets around them, so that a tree of calls that is given such texts does it too. -/
structure Closed (fragments : Bool) (plain : String → Prop) (good : Effect → Prop) : Prop where
  one : good 1
  mul : ∀ first second, good first → good second → good (first * second)
  braces : ∀ inner, good inner → good (inBraces inner)
  parentheses : ∀ inner, good inner → good (inParentheses inner)
  text : ∀ text, plain text → good (Text.effect text)
  raw : ∀ text, (fragments = true → plain text) → good (linesEffect (rawLines "" 0 text))

section Effects

variable {fragments : Bool} {plain : String → Prop} {good : Effect → Prop} (closed : Closed fragments plain good)

include closed

mutual

/-- A call that is given plain texts does what they do. -/
theorem Stmt.effect_of_texts : (statement : Stmt) → (∀ text ∈ statement.texts fragments, plain text) →
    good statement.effect
  | .line text, each | .comment text, each => by
    rw [Stmt.effect]
    exact closed.text text (each text (by simp [Stmt.texts]))
  | .raw text, each => by
    rw [Stmt.effect]
    exact closed.raw text fun asked => each text (by simp [Stmt.texts, asked])
  | .blank, _ | .barrier, _ => by
    rw [Stmt.effect]
    exact closed.one
  | .block header body, each => by
    obtain ⟨first, inner⟩ := List.forall_mem_cons.mp each
    rw [Stmt.effect]
    exact closed.mul _ _ (closed.text _ first) (closed.braces _ (effectAll_of_texts body inner))
  | .scope body, each => by
    rw [Stmt.effect]
    exact closed.braces _ (effectAll_of_texts body each)
  | .indent body, each => by
    rw [Stmt.effect]
    exact effectAll_of_texts body each
  | .cond condition body, each | .loop _ condition body, each => by
    obtain ⟨first, inner⟩ := List.forall_mem_cons.mp each
    rw [Stmt.effect]
    exact closed.mul _ _ (closed.parentheses _ (closed.text _ first)) (closed.braces _ (effectAll_of_texts body inner))
  | .condElse condition body otherwise, each => by
    obtain ⟨front, other⟩ := List.forall_mem_append.mp each
    obtain ⟨first, inner⟩ := List.forall_mem_cons.mp front
    rw [Stmt.effect]
    have way := closed.mul _ _ (closed.parentheses _ (closed.text _ first))
      (closed.braces _ (effectAll_of_texts body inner))
    exact closed.mul _ _ way (closed.braces _ (effectAll_of_texts otherwise other))

theorem effectAll_of_texts : (statements : List Stmt) →
    (∀ text ∈ textsAll fragments statements, plain text) → good (effectAll statements)
  | [], _ => by
    rw [effectAll]
    exact closed.one
  | statement :: rest, each => by
    obtain ⟨first, later⟩ := List.forall_mem_append.mp each
    rw [effectAll]
    exact closed.mul _ _ (statement.effect_of_texts first) (effectAll_of_texts rest later)

end

end Effects

/-- A line of a fragment is one line of characters from it. -/
theorem mem_of_mem_rawLines {text line : String} (member : line ∈ rawLines "" 0 text) :
    '\n' ∉ line.toList ∧ ∀ character ∈ line.toList, character ∈ text.toList := by
  obtain ⟨piece, among, rfl⟩ := List.mem_map.mp member
  obtain ⟨single, part⟩ := Text.mem_of_mem_pieces among
  split
  · simp
  · rw [indented_zero]
    exact ⟨single, fun character inside => Text.mem_of_mem_dropEnding (part character inside)⟩

/-- What holds of each line holds of all of them. -/
theorem linesEffect_of_each {good : Effect → Prop} (one : good 1)
    (mul : ∀ first second, good first → good second → good (first * second)) {lines : List String}
    (each : ∀ line ∈ lines, good (Text.effect line)) : good (linesEffect lines) := by
  induction lines with
  | nil => exact one
  | cons line rest ih =>
    obtain ⟨first, later⟩ := List.forall_mem_cons.mp each
    rw [linesEffect_cons]
    exact mul _ _ first (ih later)

/-- Line feeds only come from fragments, which are cut there. -/
theorem closed_feeds : Closed false (fun text => '\n' ∉ text.toList) fun effect => effect.feeds = 0 where
  one := rfl
  mul first second left right := by rw [Effect.feeds_mul, left, right]
  braces inner none := by rw [inBraces, Effect.feeds_mul, Effect.feeds_mul, none]; rfl
  parentheses inner none := by rw [inParentheses, Effect.feeds_mul, Effect.feeds_mul, none]; rfl
  text _ none := Text.feeds_of_not_mem none
  raw text _ := by
    refine @linesEffect_of_each (fun effect => effect.feeds = 0) rfl (fun first second left right => ?_) _
      fun line member => Text.feeds_of_not_mem (mem_of_mem_rawLines member).1
    rw [Effect.feeds_mul, left, right]

/-- Braces only come from the texts, and in pairs around bodies. -/
theorem closed_braces :
    Closed true (fun text => '{' ∉ text.toList ∧ '}' ∉ text.toList) fun effect => effect.braces = 1 where
  one := rfl
  mul first second left right := by rw [Effect.braces_mul, left, right, one_mul]
  braces inner unit := by rw [inBraces, Effect.braces_mul, Effect.braces_mul, unit]; rfl
  parentheses inner unit := by rw [inParentheses, Effect.braces_mul, Effect.braces_mul, unit]; rfl
  text _ none := Text.braces_of_not_mem none.1 none.2
  raw text none := by
    obtain ⟨opening, closing⟩ := none rfl
    refine @linesEffect_of_each (fun effect => effect.braces = 1) rfl (fun first second left right => ?_) _
      fun line member => ?_
    · rw [Effect.braces_mul, left, right, one_mul]
    · obtain ⟨-, part⟩ := mem_of_mem_rawLines member
      exact Text.braces_of_not_mem (fun inside => opening (part _ inside)) fun inside => closing (part _ inside)

/-! ### Trees of calls -/

/-- A tree of calls keeps the indentation. If the texts in it, other than fragments, are one line each, its lines are
    those of the calls in order, each behind as many tabs as the writer and the calls around it ask for. If no text has
    a brace, the braces nest. Calls in a row write what the one part writes and then what the other writes, and the
    bytes of all of it are counted. -/
theorem writeAll_structure (statements : List Stmt) (writer : Writer) :
    (writeAll statements writer).indent = writer.indent ∧
      (writeAll statements writer).buffer = writer.buffer ++ render statements writer.indent ∧
      ((∀ text ∈ textsAll false statements, '\n' ∉ text.toList) →
        Text.pieces '\n' (render statements writer.indent) =
          (outlineAll 0 statements).map (Outlined.placed writer.indent) ++ [""]) ∧
      ((∀ text ∈ textsAll true statements, '{' ∉ text.toList ∧ '}' ∉ text.toList) →
        Text.Nests '{' '}' (render statements writer.indent)) ∧
      (∀ first second, statements = first ++ second →
        writeAll statements writer = writeAll second (writeAll first writer) ∧
          render statements writer.indent = render first writer.indent ++ render second writer.indent) ∧
      (writeAll statements writer).length = writer.length + (render statements writer.indent).utf8ByteSize := by
  have neutral : Text.effect "\t" = 1 := rfl
  refine ⟨?_, ?_, ?_, ?_, ?_, ?_⟩
  · rw [writeAll_eq]
    rfl
  · rw [writeAll_eq]
    rfl
  · intro single
    have none := effectAll_of_texts closed_feeds statements single
    rw [← effect_linesAll neutral writer.indent] at none
    rw [render, pieces_unlines (feed_not_mem_of_feeds none)]
    exact congrArg (· ++ [""]) (linesAll_eq_outline writer.indent 0 statements)
  · intro plain
    refine Text.nests_of_braces ?_
    rw [render, effect_unlines, effect_linesAll neutral]
    exact effectAll_of_texts closed_braces statements plain
  · rintro first second rfl
    have parts (depth : Nat) : render (first ++ second) depth = render first depth ++ render second depth := by
      rw [render, linesAll_append, unlines_append, render, render]
    refine ⟨?_, parts writer.indent⟩
    simp only [writeAll_eq, Writer.put, parts, String.append_assoc]
  · rw [writeAll_eq, Writer.length, Writer.put, String.utf8ByteSize_append]
    rfl

/-- A loop around a conditional, and a fragment with a line of blanks. -/
def nestedCalls : List Stmt :=
  [.scope
      [.loop .full "ushort k = 0; k < 16; k += 8" [.condElse "k < K" [.line "x += 1;"] [.barrier]],
        .raw "a;\n  \nb;\n",
        .comment "done"],
    .blank]

theorem writeAll_structure_nested :
    (∀ text ∈ textsAll false nestedCalls, '\n' ∉ text.toList) ∧
      (∀ text ∈ textsAll true nestedCalls, '{' ∉ text.toList ∧ '}' ∉ text.toList) ∧
      (writeAll nestedCalls ⟨"", 1⟩).indent = 1 ∧
      Text.pieces '\n' (writeAll nestedCalls ⟨"", 1⟩).buffer =
        ["\t\x7b",
          "\t\t#pragma clang loop unroll(full)",
          "\t\tfor (ushort k = 0; k < 16; k += 8) \x7b",
          "\t\t\tif (k < K) \x7b",
          "\t\t\t\tx += 1;",
          "\t\t\t\x7d else \x7b",
          "\t\t\t\tthreadgroup_barrier(mem_flags::mem_threadgroup);",
          "\t\t\t\x7d",
          "\t\t\x7d",
          "\t\ta;",
          "",
          "\t\tb;",
          "\t\t// done",
          "\t\x7d",
          "",
          ""] ∧
      Text.Nests '{' '}' (writeAll nestedCalls ⟨"", 1⟩).buffer := by
  obtain ⟨kept, written, lines, nests, -, -⟩ := writeAll_structure nestedCalls ⟨"", 1⟩
  have single : ∀ text ∈ textsAll false nestedCalls, '\n' ∉ text.toList := by decide +kernel
  have plain : ∀ text ∈ textsAll true nestedCalls, '{' ∉ text.toList ∧ '}' ∉ text.toList := by decide +kernel
  rw [written, String.empty_append]
  refine ⟨single, plain, kept, (lines single).trans ?_, nests plain⟩
  decide +kernel

end KernelForge.Shader
