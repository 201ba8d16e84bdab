import KernelForge.Proofs.Text.Bracket
import KernelForge.Shader.Program

/-!
Brackets of shader source. What a tree of statements does to the brackets around it does not depend on how it is
indented, so it is read off the tree, and the text of the tree does the same. Braces of blocks, conditionals and loops
close by construction; what is left to look at are the lines and headers. The two headers in front of every kernel are
looked at in the same way. Along the way a line is seen to be one line.
-/

namespace KernelForge.Shader

open Text (Effect effect turns effect_append effect_numeral)

/-- What lines do to the brackets around them. -/
def linesEffect (lines : List String) : Effect :=
  (lines.map effect).prod

@[simp]
theorem linesEffect_nil : linesEffect [] = 1 := rfl

@[simp]
theorem linesEffect_cons (line : String) (lines : List String) :
    linesEffect (line :: lines) = effect line * linesEffect lines :=
  List.prod_cons

@[simp]
theorem linesEffect_append (first second : List String) :
    linesEffect (first ++ second) = linesEffect first * linesEffect second := by
  simp [linesEffect]

theorem effect_unlines (lines : List String) :
    effect (unlines lines) = { linesEffect lines with feeds := (linesEffect lines).feeds + lines.length } := by
  have after : ∀ text, effect (lines.foldl (fun text line => text ++ line ++ "\n") text) =
      effect text * linesEffect lines * ⟨1, 1, lines.length⟩ := by
    induction lines with
    | nil =>
      intro text
      rw [List.foldl_nil, linesEffect_nil, mul_one]
      exact (mul_one _).symm
    | cons line rest ih =>
      intro text
      have feed : effect "\n" = ⟨1, 1, 1⟩ := rfl
      rw [List.foldl_cons, ih, effect_append, effect_append, feed, linesEffect_cons, List.length_cons]
      simp only [Effect.mul_def, mul_one, mul_assoc, Effect.mk.injEq, true_and]
      omega
  rw [unlines, after, Text.effect_empty, one_mul, Effect.mul_def, mul_one, mul_one]

/-- Lines that are balanced together. -/
theorem balanced_unlines {lines : List String} (neutral : linesEffect lines = 1) : Text.Balanced (unlines lines) := by
  rw [Text.Balanced, effect_unlines, neutral]
  exact ⟨rfl, rfl⟩

/-- Lines without line feeds are one line each. -/
theorem feed_not_mem_of_feeds {lines : List String} (none : (linesEffect lines).feeds = 0) :
    ∀ line ∈ lines, '\n' ∉ line.toList := by
  induction lines with
  | nil => simp
  | cons line rest ih =>
    rw [linesEffect_cons, Effect.mul_def] at none
    obtain ⟨first, later⟩ := Nat.add_eq_zero_iff.mp none
    exact List.forall_mem_cons.mpr ⟨Text.feed_not_mem first, ih later⟩

/-- Lines without an effect are one line each. -/
theorem feed_not_mem_lines {lines : List String} (neutral : linesEffect lines = 1) :
    ∀ line ∈ lines, '\n' ∉ line.toList :=
  feed_not_mem_of_feeds (by rw [neutral]; rfl)

/-! ### Trees -/

/-- Around something in braces. -/
def inBraces (inner : Effect) : Effect :=
  ⟨⟨0, 1⟩, 1, 0⟩ * inner * ⟨⟨1, 0⟩, 1, 0⟩

/-- Around something in parentheses. -/
def inParentheses (inner : Effect) : Effect :=
  ⟨1, ⟨0, 1⟩, 0⟩ * inner * ⟨1, ⟨1, 0⟩, 0⟩

@[simp]
theorem inBraces_one : inBraces 1 = 1 := rfl

@[simp]
theorem inParentheses_one : inParentheses 1 = 1 := rfl

mutual

/-- What a statement does to the brackets around it. -/
def Stmt.effect : Stmt → Effect
  | .line text => Text.effect text
  | .raw text => linesEffect (rawLines "" 0 text)
  | .blank => 1
  | .comment text => Text.effect text
  | .block header body => Text.effect header * inBraces (effectAll body)
  | .scope body => inBraces (effectAll body)
  | .indent body => effectAll body
  | .cond condition body => inParentheses (Text.effect condition) * inBraces (effectAll body)
  | .condElse condition body otherwise =>
    inParentheses (Text.effect condition) * inBraces (effectAll body) * inBraces (effectAll otherwise)
  | .loop _ header body => inParentheses (Text.effect header) * inBraces (effectAll body)
  | .barrier => 1

/-- What statements in a row do to the brackets around them. -/
def effectAll : List Stmt → Effect
  | [] => 1
  | statement :: rest => statement.effect * effectAll rest

end

attribute [simp] Stmt.effect effectAll

@[simp]
theorem effectAll_append (first second : List Stmt) :
    effectAll (first ++ second) = effectAll first * effectAll second := by
  induction first with
  | nil => simp
  | cons statement rest ih => simp [ih, mul_assoc]

@[simp]
theorem effectAll_ite (condition : Prop) [Decidable condition] (first second : List Stmt) :
    effectAll (if condition then first else second) = if condition then effectAll first else effectAll second :=
  apply_ite effectAll condition first second

section Lines

variable {unit : String} (neutral : effect unit = 1)

include neutral

theorem effect_indented (depth : Nat) (text : String) : effect (indented unit depth text) = effect text := by
  have margin : effect (String.join (List.replicate depth unit)) = 1 := by
    induction depth with
    | zero => rfl
    | succ depth ih => simp only [List.replicate_succ, String.join_cons, effect_append, neutral, ih, one_mul]
  rw [indented, effect_append, margin, one_mul]

theorem effect_rawLines (depth : Nat) (text : String) :
    linesEffect (rawLines unit depth text) = linesEffect (rawLines "" 0 text) := by
  have same : ∀ line, effect (if (Text.trim line).isEmpty then "" else indented unit depth line) =
      effect (if (Text.trim line).isEmpty then "" else indented "" 0 line) := by
    intro line
    split
    · rfl
    · rw [effect_indented neutral]
      rfl
  simp only [linesEffect, rawLines, List.map_map, Function.comp_def, same]

theorem effect_pragma (unroll : Unroll) (depth : Nat) :
    linesEffect (unroll.pragma?.map (indented unit depth)).toList = 1 := by
  cases unroll with
  | none => rfl
  | full =>
    simp only [Unroll.pragma?, Option.map_some, Option.toList_some, linesEffect_cons, effect_indented neutral]
    simp (disch := rfl) only [Text.effect_literal]
    rfl
  | disable =>
    simp only [Unroll.pragma?, Option.map_some, Option.toList_some, linesEffect_cons, effect_indented neutral]
    simp (disch := rfl) only [Text.effect_literal]
    rfl

/-- An opening line, a body and the closing brace. -/
theorem effect_braced {depth : Nat} {body : List Stmt}
    (inner : linesEffect (linesAll unit (depth + 1) body) = effectAll body) (opening : String) :
    linesEffect (braced unit depth opening body) = effect opening * effectAll body * ⟨⟨1, 0⟩, 1, 0⟩ := by
  have closing : effect "\x7d" = ⟨⟨1, 0⟩, 1, 0⟩ := rfl
  simp only [braced, linesEffect_cons, linesEffect_append, linesEffect_nil, effect_indented neutral, inner, closing,
    mul_one, mul_assoc, List.cons_append]

omit neutral in
theorem effect_condition (word condition : String) (opens : effect word = ⟨1, ⟨0, 1⟩, 0⟩) :
    effect (word ++ condition ++ ") \x7b") = inParentheses (effect condition) * ⟨⟨0, 1⟩, 1, 0⟩ := by
  have closing : effect ") \x7b" = ⟨1, ⟨1, 0⟩, 0⟩ * ⟨⟨0, 1⟩, 1, 0⟩ := rfl
  rw [effect_append, effect_append, opens, closing, inParentheses, mul_assoc, mul_assoc, mul_assoc]

end Lines

mutual

/-- A statement does the same to the brackets at every depth. -/
theorem effect_lines {unit : String} (neutral : effect unit = 1) (depth : Nat) :
    (statement : Stmt) → linesEffect (statement.lines unit depth) = statement.effect
  | .line text => by simp [Stmt.lines, effect_indented neutral]
  | .raw text => by
    rw [Stmt.lines, Stmt.effect]
    exact effect_rawLines neutral depth text
  | .blank => by simp [Stmt.lines]
  | .comment text => by
    have slashes : effect "// " = 1 := rfl
    simp [Stmt.lines, effect_indented neutral, slashes]
  | .block header body => by
    have opening : effect " \x7b" = ⟨⟨0, 1⟩, 1, 0⟩ := rfl
    rw [Stmt.lines, effect_braced neutral (effect_linesAll neutral (depth + 1) body), effect_append, opening, Stmt.effect,
      inBraces, mul_assoc, mul_assoc, mul_assoc]
  | .scope body => by
    have opening : effect "\x7b" = ⟨⟨0, 1⟩, 1, 0⟩ := rfl
    rw [Stmt.lines, effect_braced neutral (effect_linesAll neutral (depth + 1) body), opening, Stmt.effect, inBraces]
  | .indent body => by
    rw [Stmt.lines, effect_linesAll neutral (depth + 1) body, Stmt.effect]
  | .cond condition body => by
    rw [Stmt.lines, effect_braced neutral (effect_linesAll neutral (depth + 1) body),
      effect_condition "if (" condition rfl, Stmt.effect, inBraces, mul_assoc, mul_assoc, mul_assoc]
  | .condElse condition body otherwise => by
    have between : effect "\x7d else \x7b" = ⟨⟨1, 0⟩, 1, 0⟩ * ⟨⟨0, 1⟩, 1, 0⟩ := rfl
    have closing : effect "\x7d" = ⟨⟨1, 0⟩, 1, 0⟩ := rfl
    simp only [Stmt.lines, linesEffect_cons, linesEffect_append, linesEffect_nil, effect_indented neutral,
      effect_linesAll neutral (depth + 1) body, effect_linesAll neutral (depth + 1) otherwise,
      effect_condition "if (" condition rfl, between, closing, Stmt.effect, inBraces, mul_one, mul_assoc,
      List.cons_append]
  | .loop unroll header body => by
    rw [Stmt.lines, linesEffect_append, effect_pragma neutral,
      effect_braced neutral (effect_linesAll neutral (depth + 1) body), effect_condition "for (" header rfl,
      Stmt.effect, inBraces, one_mul, mul_assoc, mul_assoc, mul_assoc]
  | .barrier => by
    have line : effect barrierLine = 1 := by
      rw [barrierLine, Text.effect_literal rfl]
      rfl
    simp [Stmt.lines, effect_indented neutral, line]

theorem effect_linesAll {unit : String} (neutral : effect unit = 1) (depth : Nat) :
    (statements : List Stmt) → linesEffect (linesAll unit depth statements) = effectAll statements
  | [] => by simp [linesAll]
  | statement :: rest => by
    rw [linesAll, linesEffect_append, effect_lines neutral depth statement, effect_linesAll neutral depth rest, effectAll]

end

/-- The text of statements without an effect. -/
theorem balanced_render {statements : List Stmt} (neutral : effectAll statements = 1) :
    Text.Balanced (render statements) :=
  balanced_unlines ((effect_linesAll rfl 0 statements).trans neutral)

/-! ### Parts of programs -/

@[simp]
theorem effect_boolean (value : Bool) : effect (boolean value) = 1 := by
  cases value <;> rfl

@[simp]
theorem AddressSpace.effect_keyword (space : AddressSpace) : effect space.keyword = 1 := by
  cases space <;> rfl

@[simp]
theorem AddressSpace.effect_indexType (space : AddressSpace) : effect space.indexType = 1 := by
  cases space <;> rfl

@[simp]
theorem effect_tileLoop (index : String) (extent : UInt16) (body : List Stmt) :
    (tileLoop index extent body).effect =
      inParentheses (effect index * effect index * effect index) * inBraces (effectAll body) := by
  have start : effect "ushort " = 1 := rfl
  have zero : effect " = 0; " = 1 := rfl
  have below : effect " < " = 1 := rfl
  have stop : effect "; " = 1 := rfl
  have step : effect " += 8" = 1 := rfl
  simp only [tileLoop, Stmt.effect, effect_append, Text.toString_self, start, zero, below, stop, step, Text.effect_word,
    one_mul, mul_one]

@[simp]
theorem effectAll_staged (body : List Stmt) : effectAll (staged body) = inBraces (effectAll body) := by
  have first : effect "sidx == 0" = 1 := rfl
  simp [staged, first]

@[simp]
theorem effectAll_fenced (copy between : List Stmt) :
    effectAll (fenced copy between) = inBraces (effectAll copy) * effectAll between := by
  have first : effect "sidx == 0" = 1 := rfl
  simp [fenced, first]

/-- Lines that end with a comma, the last one with a closing parenthesis. -/
theorem effectAll_closed {lines : List String} (some : lines ≠ []) {start total : Nat}
    (ends : start + lines.length = total) :
    effectAll ((lines.zipIdx start).map fun (line, index) =>
      .line (line ++ (if index + 1 = total then ")" else ","))) = linesEffect lines * ⟨1, ⟨1, 0⟩, 0⟩ := by
  have comma : effect "," = 1 := rfl
  have closing : effect ")" = ⟨1, ⟨1, 0⟩, 0⟩ := rfl
  induction lines generalizing start with
  | nil => exact absurd rfl some
  | cons line rest ih =>
    cases rest with
    | nil =>
      have last : start + 1 = total := ends
      simp [last, closing]
    | cons next rest =>
      have more : start + 1 ≠ total := by
        simp only [List.length_cons] at ends
        omega
      have later := @ih (by simp) (start + 1) (by simp only [List.length_cons] at ends ⊢; omega)
      rw [List.zipIdx_cons, List.map_cons, effectAll, later]
      simp [more, comma, mul_assoc]

/-- The head of a kernel function whose arguments have no open brackets. -/
theorem effectAll_kernelHead {name : String} {arguments : List String} (plain : effect name = 1)
    (each : ∀ argument ∈ arguments, effect argument = 1) : effectAll (kernelHead name arguments) = 1 := by
  have opening : effect s!"kernel void {name}(" = ⟨1, ⟨0, 1⟩, 0⟩ := by
    have word : effect "kernel void " = 1 := rfl
    have parenthesis : effect "(" = ⟨1, ⟨0, 1⟩, 0⟩ := rfl
    simp only [effect_append, Text.toString_self, plain, word, parenthesis, one_mul]
  have margin : ∀ count, effect (String.ofList (List.replicate count ' ')) = 1 := by
    intro count
    apply @Text.effect_of_within (· == ' ')
    · intro character member
      rw [String.toList_ofList] at member
      simp [List.eq_of_mem_replicate member]
    · intro character counted
      rcases Text.of_isCounted counted with rfl | rfl | rfl | rfl | rfl <;> rfl
  have aligned : ∀ count, ∀ rest : List String, (∀ argument ∈ rest, effect argument = 1) →
      linesEffect (rest.map (String.ofList (List.replicate count ' ') ++ ·)) = 1 := by
    intro count rest neutral
    induction rest with
    | nil => rfl
    | cons argument rest ih =>
      rw [List.map_cons, linesEffect_cons, effect_append, margin, neutral argument (by simp),
        ih fun later member => neutral later (by simp [member]), one_mul, one_mul]
  cases arguments with
  | nil =>
    have closing : effect ")" = ⟨1, ⟨1, 0⟩, 0⟩ := rfl
    simp only [kernelHead, effectAll, Stmt.effect, effect_append, opening, closing]
    rfl
  | cons first rest =>
    dsimp only [kernelHead]
    rw [effectAll_closed (by simp) (Nat.zero_add _), linesEffect_cons, effect_append, opening, each first (by simp),
      aligned _ rest fun argument member => each argument (by simp [member])]
    rfl

/-! ### Headers -/

theorem linesEffect_handwritten (depth : Nat) (statements : List Stmt) :
    linesEffect (handwritten depth statements) = effectAll statements :=
  effect_linesAll rfl depth statements

theorem effectAll_spread (opening : String) (arguments : List String) :
    effectAll (spread opening arguments) = effect opening * linesEffect arguments := by
  have each : effectAll (arguments.map .line) = linesEffect arguments := by
    induction arguments with
    | nil => rfl
    | cons argument rest ih => simp only [List.map_cons, effectAll, Stmt.effect, ih, linesEffect_cons]
  simp only [spread, effectAll, Stmt.effect, each, mul_one]

theorem effectAll_copyPrimitive {target origin mark : String} (toTarget : effect target = 1)
    (fromOrigin : effect origin = 1) (marked : effect mark = 1) :
    effectAll (copyPrimitive target origin mark) = 1 := by
  simp only [copyPrimitive, List.cons_append, List.nil_append, effectAll, effectAll_spread, Stmt.effect,
    linesEffect_cons, linesEffect_nil, effect_append, toTarget, fromOrigin, marked]
  simp (disch := rfl) only [Text.effect_literal]
  cbv

theorem effectAll_copyMember (target origin : AddressSpace) : effectAll (copyMember target origin) = 1 := by
  cases target <;> cases origin
  all_goals
    simp only [copyMember, List.cons_append, List.nil_append, effectAll, effectAll_append, effectAll_spread, Stmt.effect,
      linesEffect_cons, linesEffect_nil, effect_append, AddressSpace.effect_keyword, AddressSpace.effect_indexType,
      reduceCtorEq, ↓reduceIte]
    simp (disch := rfl) only [Text.effect_literal]
    cbv

theorem effectAll_copyPrimitives : effectAll copyPrimitives = 1 := by
  have device : effect "device" = 1 := rfl
  have threadgroup : effect "threadgroup" = 1 := rfl
  have inward : effect "p3i8.p1i8" = 1 := rfl
  have outward : effect "p1i8.p3i8" = 1 := rfl
  simp only [copyPrimitives, List.flatten_cons, List.flatten_nil, List.cons_append, List.nil_append, List.append_nil,
    effectAll, effectAll_append, effectAll_copyPrimitive threadgroup device inward,
    effectAll_copyPrimitive device threadgroup outward, effectAll_spread, Stmt.effect, linesEffect_cons,
    linesEffect_nil]
  simp (disch := rfl) only [Text.effect_literal]
  cbv

theorem effectAll_eventMembers : effectAll eventMembers = 1 := by
  simp only [eventMembers, List.flatten_cons, List.flatten_nil, List.cons_append, List.nil_append, List.append_nil,
    effectAll, effectAll_append, effectAll_copyMember, effectAll_spread, Stmt.effect, linesEffect_cons, linesEffect_nil]
  simp (disch := rfl) only [Text.effect_literal]
  cbv

theorem linesEffect_eventLines : linesEffect eventLines = 1 := by
  simp only [eventLines, guarded, between, metalNamespace, List.cons_append, List.nil_append, linesEffect_cons,
    linesEffect_nil, linesEffect_append, linesEffect_handwritten, effectAll_copyPrimitives, effectAll_eventMembers,
    eventOpening, eventClosing, effectAll, Stmt.effect, effect_append, Text.effect_empty]
  simp (disch := rfl) only [Text.effect_literal]
  cbv

namespace TileAccess

theorem effect_signature (access : TileAccess) : effect access.signature = 1 := by
  have separator : effect ", " = 1 := rfl
  obtain ⟨store, space, bfloat⟩ := access
  cases store <;> cases bfloat
  all_goals
    unfold signature TileAccess.name
    simp only [Text.toString_self, effect_append, Text.effect_joined separator, List.map_cons, List.map_nil,
      List.prod_cons, List.prod_nil, AddressSpace.effect_keyword, AddressSpace.effect_indexType, Text.effect_empty,
      Bool.false_eq_true, ↓reduceIte]
    simp (disch := rfl) only [Text.effect_literal]
    cbv

theorem effect_address (access : TileAccess) (transposed : Bool) (offset : Nat) :
    effect (access.address transposed offset) = 1 := by
  cases transposed
  all_goals
    simp only [address, Text.toString_self, effect_append, effect_numeral, AddressSpace.effect_indexType,
      Bool.false_eq_true, ↓reduceIte]
    simp (disch := rfl) only [Text.effect_literal]
    cbv

theorem effectAll_separately (access : TileAccess) (transposed : Bool) :
    effectAll (access.separately transposed) = 1 := by
  obtain ⟨store, space, bfloat⟩ := access
  cases store <;> cases bfloat
  all_goals
    simp only [separately, List.map_cons, List.map_nil, List.cons_append, List.nil_append, effectAll, Stmt.effect,
      Text.toString_self, effect_append, effect_numeral, effect_address, AddressSpace.effect_indexType]
    simp (disch := rfl) only [Text.effect_literal]
    cbv

theorem effectAll_together (access : TileAccess) : effectAll access.together = 1 := by
  obtain ⟨store, space, bfloat⟩ := access
  cases store <;> cases bfloat
  all_goals
    simp only [together, effectAll, Stmt.effect, Text.toString_self, effect_append, effect_address,
      AddressSpace.effect_keyword]
    simp (disch := rfl) only [Text.effect_literal]
    cbv

theorem effectAll_member (access : TileAccess) : effectAll access.member = 1 := by
  obtain ⟨store, space, bfloat⟩ := access
  cases store <;> cases bfloat
  all_goals
    simp only [member, List.cons_append, List.nil_append, effectAll, Stmt.effect, effect_signature, effectAll_separately,
      effectAll_together, Bool.not_true, Bool.not_false, Bool.false_eq_true, ↓reduceIte]
    simp (disch := rfl) only [Text.effect_literal]
    cbv

/-- All accesses, each with an empty line behind it. -/
theorem effectAll_members (accesses : List TileAccess) :
    effectAll (accesses.flatMap fun access => access.member ++ [.blank]) = 1 := by
  induction accesses with
  | nil => rfl
  | cons access rest ih =>
    simp only [List.flatMap_cons, effectAll_append, effectAll_member, effectAll, Stmt.effect, ih, mul_one]

end TileAccess

theorem effect_offsetMember (space : AddressSpace) : (offsetMember space).effect = 1 := by
  cases space
  all_goals
    simp only [offsetMember, Stmt.effect, effectAll, Text.toString_self, effect_append, AddressSpace.effect_keyword,
      AddressSpace.effect_indexType, reduceCtorEq, ↓reduceIte]
    simp (disch := rfl) only [Text.effect_literal]
    cbv

theorem linesEffect_storageLines : linesEffect storageLines = 1 := by
  have members (depth : Nat) (statements : List Stmt) :
      linesEffect (linesAll "\t" depth statements) = effectAll statements := effect_linesAll rfl depth statements
  simp only [storageLines, guarded, between, metalNamespace, List.cons_append, List.nil_append, linesEffect_cons,
    linesEffect_nil, linesEffect_append, linesEffect_handwritten, members, TileAccess.effectAll_members,
    effect_offsetMember, effectAll, Stmt.effect, effect_append, Text.effect_empty]
  simp (disch := rfl) only [Text.effect_literal]
  cbv

/-- The headers leave no bracket open. -/
theorem balanced_preamble : Text.Balanced preamble := by
  have feed : Text.Balanced "\n" := ⟨rfl, rfl⟩
  exact (((balanced_unlines linesEffect_eventLines).append feed).append
    (balanced_unlines linesEffect_storageLines)).append feed

end KernelForge.Shader
