import KernelForge.Archive

/-!
Reading back an archive. A part whose last line is ended and that has no marker among its lines comes back as it is,
and so does a name that is one line without blanks at its ends. A name without the plain space that has a line feed
gives no marker at all, so such names are exactly those of the archives that come back.
-/

namespace KernelForge.Archive

/-! ### Lines -/

theorem lines_cons_feed (rest : List Char) : lines ('\n' :: rest) = ['\n'] :: lines rest := by
  rw [lines]

theorem flatten_lines (text : List Char) : (lines text).flatten = text := by
  induction text with
  | nil => rfl
  | cons character rest ih =>
    by_cases feed : character = '\n'
    · rw [feed, lines_cons_feed, List.flatten_cons, ih]
      rfl
    · rw [lines]
      · split
        · next none => rw [← ih, none]; rfl
        · next line later same => rw [← ih, same]; rfl
      · exact feed

theorem lines_ne_nil {text : List Char} (some : text ≠ []) : lines text ≠ [] := by
  intro none
  apply some
  rw [← flatten_lines text, none, List.flatten_nil]

theorem lines_cons {character : Char} (other : character ≠ '\n') {rest line : List Char} {later : List (List Char)}
    (same : lines rest = line :: later) : lines (character :: rest) = (character :: line) :: later := by
  rw [lines, same]
  exact other

/-- The first line of a text. -/
theorem lines_feed {line : List Char} (single : '\n' ∉ line) (rest : List Char) :
    lines (line ++ '\n' :: rest) = (line ++ ['\n']) :: lines rest := by
  induction line with
  | nil => exact lines_cons_feed rest
  | cons character line ih =>
    obtain ⟨other, later⟩ := List.ne_and_not_mem_of_not_mem_cons single
    exact lines_cons other.symm (ih later)

/-- A text that is empty or ends with a line feed. -/
def EndsLine (text : List Char) : Prop :=
  text = [] ∨ text.getLast? = some '\n'

theorem EndsLine.tail {character : Char} {rest : List Char} (ends : EndsLine (character :: rest))
    (other : character ≠ '\n') : rest ≠ [] ∧ EndsLine rest := by
  rcases ends with none | last
  · cases none
  · cases rest with
    | nil => exact absurd (Option.some.inj last) other
    | cons next rest => exact ⟨List.cons_ne_nil _ _, .inr (by simpa using last)⟩

theorem EndsLine.append {first second : List Char} (left : EndsLine first) (right : EndsLine second) :
    EndsLine (first ++ second) := by
  rcases right with rfl | last
  · rwa [List.append_nil]
  · exact .inr (by rw [List.getLast?_append, last, Option.some_or])

theorem lines_append {first : List Char} (ends : EndsLine first) (second : List Char) :
    lines (first ++ second) = lines first ++ lines second := by
  induction first with
  | nil => rfl
  | cons character rest ih =>
    by_cases feed : character = '\n'
    · have later : EndsLine rest := by
        rcases List.eq_nil_or_concat rest with rfl | ⟨_, _, rfl⟩
        · exact .inl rfl
        · rcases ends with none | last
          · cases none
          · exact .inr (by simpa [List.getLast?_cons] using last)
      rw [feed, List.cons_append, lines_cons_feed, lines_cons_feed, ih later, List.cons_append]
    · obtain ⟨some, later⟩ := ends.tail feed
      obtain ⟨line, others, same⟩ := List.exists_cons_of_ne_nil (lines_ne_nil some)
      have joined : lines (rest ++ second) = line :: (others ++ lines second) := by rw [ih later, same, List.cons_append]
      rw [List.cons_append, lines_cons feed joined, lines_cons feed same, List.cons_append]

/-- A line starts like the text that it is the first line of. -/
theorem head?_of_lines {text line : List Char} {later : List (List Char)} (same : lines text = line :: later) :
    line.head? = text.head? := by
  cases text with
  | nil => cases same
  | cons character rest =>
    by_cases feed : character = '\n'
    · rw [feed, lines_cons_feed] at same
      rw [← (List.cons.inj same).1, feed]
      rfl
    · cases inner : lines rest with
      | nil =>
        rw [lines, inner] at same
        · rw [← (List.cons.inj same).1]
          rfl
        · exact feed
      | cons next others =>
        rw [lines_cons feed inner] at same
        rw [← (List.cons.inj same).1]
        rfl

/-- The lines behind the first one start like what stands behind the line feeds. -/
theorem head?_ne_of_feeds {text : List Char}
    (behind : ∀ front back, text = front ++ '\n' :: back → back.head? ≠ some '-') :
    ∀ line ∈ (lines text).tail, line.head? ≠ some '-' := by
  induction text with
  | nil => exact List.forall_mem_nil _
  | cons character rest ih =>
    have later := ih fun front back same => behind (character :: front) back (by rw [same]; rfl)
    by_cases feed : character = '\n'
    · have first := behind [] rest (by rw [feed]; rfl)
      rw [feed, lines_cons_feed, List.tail_cons]
      cases inner : lines rest with
      | nil => exact List.forall_mem_nil _
      | cons line others =>
        rw [inner] at later
        refine List.forall_mem_cons.mpr ⟨?_, later⟩
        rwa [head?_of_lines inner]
    · cases inner : lines rest with
      | nil =>
        rw [lines, inner]
        · exact List.forall_mem_nil _
        · exact feed
      | cons line others =>
        rw [lines_cons feed inner]
        rwa [inner] at later

theorem closed_of_endsLine {text : String} (ends : EndsLine text.toList) : closed text = text := by
  rw [closed, if_pos]
  rcases ends with none | last
  · simp [String.toList_eq_nil_iff.mp none]
  · simp [last]

/-- A text that ends its last line and has no marker among its lines. -/
structure Framed (text : String) : Prop where
  ends : EndsLine text.toList
  unmarked : ∀ line ∈ lines text.toList, markerName? line = none

theorem Framed.append {first second : String} (left : Framed first) (right : Framed second) :
    Framed (first ++ second) := by
  constructor
  · rw [String.toList_append]
    exact left.ends.append right.ends
  · rw [String.toList_append, lines_append left.ends]
    exact List.forall_mem_append.mpr ⟨left.unmarked, right.unmarked⟩

/-- A line that does not start with a dash is no marker. -/
theorem markerName?_of_head? {line : List Char} (other : line.head? ≠ some '-') : markerName? line = none := by
  have rest : (if line.getLast? = some '\n' then line.dropLast else line).head? ≠ some '-' := by
    split
    · cases line with
      | nil => exact other
      | cons first rest =>
        cases rest with
        | nil => simp
        | cons _ _ => simpa using other
    · exact other
  rw [markerName?]
  dsimp only
  split
  · next _ same =>
    rw [same] at rest
    exact absurd rfl rest
  · rfl

/-! ### Markers -/

theorem toList_marker (name : String) : (marker name).toList = "-- ".toList ++ name.toList ++ " --".toList ++ ['\n'] := by
  have shape : marker name = "-- " ++ name ++ " --\n" := rfl
  rw [shape, String.toList_append, String.toList_append]
  simp

/-- The marker of a name. -/
theorem markerName?_marker {name : String} (visible : (Text.trim name).isEmpty = false) :
    markerName? (marker name).toList = some (Text.trim name) := by
  have body : (marker name).toList.dropLast = '-' :: '-' :: ' ' :: (name.toList ++ [' ', '-', '-']) := by
    rw [toList_marker, List.dropLast_concat]
    rfl
  have last : (marker name).toList.getLast? = some '\n' := by
    rw [toList_marker, List.getLast?_concat]
  rw [markerName?]
  simp only [last, if_pos, body]
  simp [visible]

/-- A marker has two plain spaces. -/
theorem count_of_markerName? {line : List Char} {name : String} (named : markerName? line = some name) :
    2 ≤ line.count ' ' := by
  rw [markerName?] at named
  dsimp only at named
  split at named
  · next rest same =>
    split at named
    · next ending =>
      rw [Bool.and_eq_true, decide_eq_true_iff, beq_iff_eq] at ending
      have inner : 1 ≤ rest.count ' ' := by
        rw [List.one_le_count_iff, ← List.take_append_drop (rest.length - 3) rest, ending.2]
        simp
      have body : 2 ≤ (if line.getLast? = some '\n' then line.dropLast else line).count ' ' := by
        rw [same]
        simpa using inner
      refine Nat.le_trans body ?_
      split
      · exact (List.dropLast_sublist line).count_le ' '
      · exact Nat.le_refl _
    · cases named
  · cases named

/-- The lines of a marker that a line feed in the name breaks are no markers, as each has at most one plain space. -/
theorem markerName?_broken {name : String} (blankless : ' ' ∉ name.toList) (broken : '\n' ∈ name.toList) :
    ∀ line ∈ lines (marker name).toList, markerName? line = none := by
  -- A marker has two spaces in its line, and those of a broken one are in different lines.
  have few : ∀ {line : List Char}, line.count ' ' ≤ 1 → markerName? line = none := by
    intro line few
    rw [Option.eq_none_iff_forall_ne_some]
    intro found named
    exact absurd (count_of_markerName? named) (by omega)
  obtain ⟨front, back, same, single⟩ := List.eq_append_cons_of_mem broken
  rw [same, List.mem_append, List.mem_cons, not_or, not_or] at blankless
  have first : '\n' ∉ "-- ".toList ++ front := by simp [single]
  have shape : (marker name).toList = ("-- ".toList ++ front) ++ '\n' :: (back ++ " --\n".toList) := by
    rw [toList_marker, same]
    simp
  rw [shape, lines_feed first, List.forall_mem_cons]
  constructor
  · apply few
    simp [List.count_eq_zero.mpr blankless.1]
  · intro line member
    apply few
    have part := (List.sublist_flatten_of_mem member).count_le ' '
    rw [flatten_lines] at part
    simpa [List.count_eq_zero.mpr blankless.2.2] using part

/-! ### Splitting -/

theorem split_append {front : List (List Char)} (unmarked : ∀ line ∈ front, markerName? line = none)
    (rest : List (List Char)) : split (front ++ rest) = (front ++ (split rest).1, (split rest).2) := by
  induction front with
  | nil => rfl
  | cons line front ih =>
    obtain ⟨first, later⟩ := List.forall_mem_cons.mp unmarked
    rw [List.cons_append, split, ih later, first]
    rfl

theorem split_marker {line : List Char} {name : String} (named : markerName? line = some name)
    (rest : List (List Char)) : split (line :: rest) = ([], (name, (split rest).1) :: (split rest).2) := by
  rw [split, named]

theorem map_fst_split (text : List (List Char)) : (split text).2.map Prod.fst = text.filterMap markerName? := by
  induction text with
  | nil => rfl
  | cons line rest ih =>
    cases named : markerName? line with
    | none => rw [split, named, List.filterMap_cons_none named, ← ih]
    | some name => rw [split_marker named, List.map_cons, List.filterMap_cons_some named, ih]

/-- The names that are read from a text are those of its markers. -/
theorem map_name_parse (text : String) :
    (parse text).members.map Member.name = (lines text.toList).filterMap markerName? := by
  rw [parse, ← map_fst_split, List.map_map]
  rfl

/-! ### Reading back -/

/-- The name that the marker of a name gives. A line feed breaks the marker. -/
def readName? (name : String) : Option String :=
  if '\n' ∈ name.toList then none else some (Text.trim name)

/-- A name that its marker keeps: one line, without blanks at its ends. -/
def Kept (name : String) : Prop :=
  '\n' ∉ name.toList ∧ Text.trim name = name

instance (name : String) : Decidable (Kept name) :=
  inferInstanceAs (Decidable (_ ∧ _))

theorem readName?_eq_some_self {name : String} : readName? name = some name ↔ Kept name := by
  unfold readName? Kept
  split <;> simp [*]

/-- An archive whose texts end their last lines and have no markers, and whose names are visible and have no plain
    space. -/
structure WellFramed (archive : Archive) : Prop where
  comment : Framed archive.comment
  texts : ∀ member ∈ archive.members, Framed member.text
  blankless : ∀ member ∈ archive.members, ' ' ∉ member.name.toList
  visible : ∀ member ∈ archive.members, (Text.trim member.name).isEmpty = false

/-- The lines of a member. -/
theorem lines_render {member : Member} (framed : Framed member.text) (rest : List Char) :
    lines (member.render.toList ++ rest) =
      lines (marker member.name).toList ++ (lines member.text.toList ++ lines rest) := by
  have ends : EndsLine (marker member.name).toList := .inr (by rw [toList_marker, List.getLast?_concat])
  rw [Member.render, closed_of_endsLine framed.ends, String.toList_append, List.append_assoc, lines_append ends,
    lines_append framed.ends]

theorem lines_marker {name : String} (single : '\n' ∉ name.toList) :
    lines (marker name).toList = [(marker name).toList] := by
  have plain : '\n' ∉ "-- ".toList ++ name.toList ++ " --".toList := by simp [single]
  rw [toList_marker, lines_feed plain]
  rfl

theorem filterMap_marker {name : String} (blankless : ' ' ∉ name.toList) (visible : (Text.trim name).isEmpty = false) :
    (lines (marker name).toList).filterMap markerName? = (readName? name).toList := by
  unfold readName?
  split
  · next broken =>
    rw [Option.toList_none, List.filterMap_eq_nil_iff]
    exact markerName?_broken blankless broken
  · next single =>
    rw [lines_marker single, List.filterMap_cons_some (markerName?_marker visible), List.filterMap_nil,
      Option.toList_some]

/-- As no marker gives more than one name, each has to give its own. -/
theorem kept_of_filterMap {names : List String} (same : names.filterMap readName? = names) :
    ∀ name ∈ names, Kept name := by
  induction names with
  | nil => simp
  | cons name rest ih =>
    cases read : readName? name with
    | none =>
      have short := List.length_filterMap_le readName? rest
      rw [List.filterMap_cons_none read] at same
      rw [same, List.length_cons] at short
      omega
    | some found =>
      rw [List.filterMap_cons_some read, List.cons.injEq] at same
      exact List.forall_mem_cons.mpr ⟨readName?_eq_some_self.mp (same.1 ▸ read), ih same.2⟩

section

variable {archive : Archive} (framed : archive.WellFramed)

include framed

theorem toList_render :
    archive.render.toList = archive.comment.toList ++ archive.members.flatMap (·.render.toList) := by
  rw [render, closed_of_endsLine framed.comment.ends, String.toList_append, String.toList_join, List.flatMap_map]

/-- The names that are read back. -/
theorem names_parse_render : (parse archive.render).members.map Member.name =
    (archive.members.map Member.name).filterMap readName? := by
  have inner : ∀ {members : List Member}, (∀ member ∈ members, member ∈ archive.members) →
      (lines (members.flatMap (·.render.toList))).filterMap markerName? =
        (members.map Member.name).filterMap readName? := by
    intro members among
    induction members with
    | nil => rfl
    | cons member rest ih =>
      obtain ⟨first, later⟩ := List.forall_mem_cons.mp among
      have silent := List.filterMap_eq_nil_iff.mpr (framed.texts member first).unmarked
      rw [List.flatMap_cons, lines_render (framed.texts member first), List.filterMap_append, List.filterMap_append,
        silent, filterMap_marker (framed.blankless member first) (framed.visible member first), ih later,
        List.nil_append, List.map_cons, List.filterMap_cons]
      cases readName? member.name <;> rfl
  have silent := List.filterMap_eq_nil_iff.mpr framed.comment.unmarked
  rw [map_name_parse, toList_render framed, lines_append framed.comment.ends, List.filterMap_append, silent,
    inner fun _ member => member]
  rfl

/-- Kept names and framed texts come back. -/
theorem parse_render_of_kept (kept : ∀ member ∈ archive.members, Kept member.name) :
    parse archive.render = archive := by
  have inner : ∀ {members : List Member}, (∀ member ∈ members, member ∈ archive.members) →
      split (lines (members.flatMap (·.render.toList))) =
        ([], members.map fun member => (member.name, lines member.text.toList)) := by
    intro members among
    induction members with
    | nil => rfl
    | cons member rest ih =>
      obtain ⟨first, later⟩ := List.forall_mem_cons.mp among
      obtain ⟨single, trimmed⟩ := kept member first
      have named := markerName?_marker (framed.visible member first)
      rw [trimmed] at named
      rw [List.flatMap_cons, lines_render (framed.texts member first), lines_marker single, List.singleton_append,
        split_marker named, split_append (framed.texts member first).unmarked, ih later, List.append_nil, List.map_cons]
  have text : ∀ {text : String}, Framed text → closed (String.ofList (lines text.toList).flatten) = text := by
    intro text framed
    rw [flatten_lines, String.ofList_toList, closed_of_endsLine framed.ends]
  rw [parse, toList_render framed, lines_append framed.comment.ends, split_append framed.comment.unmarked,
    inner fun _ member => member]
  dsimp only
  rw [List.append_nil, text framed.comment, List.map_map]
  congr 1
  refine (List.map_congr_left fun member among => ?_).trans (List.map_id _)
  simp only [Function.comp_apply, text (framed.texts member among), id]

/-- An archive comes back if and only if markers keep its names. -/
theorem parse_render_iff : parse archive.render = archive ↔ ∀ member ∈ archive.members, Kept member.name := by
  refine ⟨fun same => ?_, parse_render_of_kept framed⟩
  have names := names_parse_render framed
  rw [same] at names
  simpa using kept_of_filterMap names.symm

end

end KernelForge.Archive
