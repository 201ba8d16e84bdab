import KernelForge.Json.Record
import KernelForge.Proofs.Archive
import KernelForge.Proofs.Text.Cut

/-!
The lines of a JSON text with a line for each item. A line feed inside of a value is escaped, and behind every other
one there are blanks or a closing bracket.
-/

namespace KernelForge

/-! ### Texts without a line feed -/

namespace Text

/-- The digits of a number are those of its base. -/
theorem mem_toDigits {base : Nat} (some : 1 < base) {value : Nat} {character : Char}
    (member : character ∈ Nat.toDigits base value) : ∃ digit < base, character = Nat.digitChar digit := by
  induction value using Nat.strongRecOn with
  | ind value ih =>
    rw [Nat.toDigits_eq_if some] at member
    split at member
    · next small => exact ⟨value, small, List.mem_singleton.mp member⟩
    · next large =>
      rcases List.mem_append.mp member with earlier | last
      · exact ih _ (Nat.div_lt_self (by omega) some) earlier
      · exact ⟨_, Nat.mod_lt _ (by omega), List.mem_singleton.mp last⟩

theorem feed_not_mem_hexPadded (width value : Nat) : '\n' ∉ hexPadded width value := by
  have apart : ∀ digit < 16, '\n' ≠ Nat.digitChar digit := by decide
  have digits : '\n' ∉ Nat.toDigits 16 value := by
    intro member
    obtain ⟨digit, below, same⟩ := mem_toDigits (by decide) member
    exact apart digit below same
  rw [hexPadded, List.mem_append, not_or]
  exact ⟨fun zero => absurd (List.eq_of_mem_replicate zero) (by decide), digits⟩

theorem feed_not_mem_digitChars (digits : List Nat) : '\n' ∉ (digitChars digits).toList := by
  rw [digitChars, String.toList_ofList, List.mem_map]
  rintro ⟨digit, -, same⟩
  have code : ∀ code, (Char.ofNat code).toNat = if code.isValidChar then code else 0 := by
    intro code
    by_cases valid : code.isValidChar
    · rw [Char.ofNat, dif_pos valid, if_pos valid]
      rfl
    · rw [Char.ofNat, dif_neg valid, if_neg valid]
      rfl
  have codes := congrArg Char.toNat same
  have zero : '0'.toNat = 48 := rfl
  have feed : '\n'.toNat = 10 := rfl
  rw [code] at codes
  split at codes <;> omega

theorem feed_not_mem_natural (value : Nat) : '\n' ∉ (toString value).toList :=
  (within_numeral value).not_mem rfl

theorem feed_not_mem_integer (value : Int) : '\n' ∉ (toString value).toList := by
  cases value with
  | ofNat value => exact feed_not_mem_natural value
  | negSucc value =>
    have shape : toString (Int.negSucc value) = "-" ++ toString (value + 1) := rfl
    rw [shape, String.toList_append, List.mem_append, not_or]
    exact ⟨by decide, feed_not_mem_natural _⟩

theorem feed_not_mem_exponentText (exponent : Int) : '\n' ∉ (exponentText exponent).toList := by
  have magnitude := feed_not_mem_natural exponent.natAbs
  unfold exponentText
  dsimp only
  rw [String.toList_append, List.mem_append, not_or]
  constructor
  · split <;> decide
  · split
    · rw [String.toList_append, List.mem_append, not_or]
      exact ⟨by decide, magnitude⟩
    · exact magnitude

theorem feed_not_mem_scientific (decimal : Decimal) : '\n' ∉ decimal.scientific.toList := by
  have digits := feed_not_mem_digitChars
  have exponent := feed_not_mem_exponentText
  unfold Decimal.scientific
  split
  all_goals simp [digits, exponent]

theorem feed_not_mem_positional (decimal : Decimal) : '\n' ∉ decimal.positional.toList := by
  have digits := feed_not_mem_digitChars
  unfold Decimal.positional
  dsimp only
  split
  · decide
  split
  · simp [digits]
  · split <;> simp [digits]

theorem feed_not_mem_shortestSingle {value : Float32} {text : String} (written : shortestSingle? value = some text) :
    '\n' ∉ text.toList := by
  unfold shortestSingle? at written
  split at written
  · next negative binary _ =>
    have body (scientific : Prop) [Decidable scientific] : '\n' ∉ (if scientific then
        (binary.shortest 23 (-149)).scientific else (binary.shortest 23 (-149)).positional).toList := by
      split
      · exact feed_not_mem_scientific _
      · exact feed_not_mem_positional _
    rw [← Option.some.inj written]
    split
    · rw [String.toList_append, List.mem_append, not_or]
      exact ⟨by decide, body _⟩
    · exact body _
  · cases written

end Text

namespace Json

theorem feed_not_mem_string (text : String) : '\n' ∉ (string text).toList := by
  have escape (character : Char) : '\n' ∉ escaped character := by
    unfold escaped
    split
    all_goals try decide
    next feed _ _ =>
      dsimp only
      split
      · simpa using Text.feed_not_mem_hexPadded 4 _
      · simpa using fun same => feed same.symm
  rw [string, String.toList_ofList]
  simp [escape]

/-! ### Layout -/

/-- Behind every line feed of a text there is a character, and it is no dash. -/
def Steady (text : String) : Prop :=
  ∀ front back, text.toList = front ++ '\n' :: back → ∃ character rest, back = character :: rest ∧ character ≠ '-'

theorem steady_of_single {text : String} (single : '\n' ∉ text.toList) : Steady text := by
  intro front back same
  rw [same] at single
  simp at single

theorem Steady.append {first second : String} (left : Steady first) (right : Steady second) :
    Steady (first ++ second) := by
  intro front back same
  rw [String.toList_append] at same
  rcases List.append_eq_append_iff.mp same with ⟨middle, rfl, later⟩ | ⟨middle, inside, later⟩
  · exact right middle back later
  · cases middle with
    | nil => exact right [] back later.symm
    | cons character middle =>
      obtain ⟨rfl, rfl⟩ := List.cons.inj later
      obtain ⟨next, rest, rfl, other⟩ := left front middle inside
      exact ⟨next, rest ++ second.toList, rfl, other⟩

/-- A line feed, blanks, and what the line starts with. -/
theorem steady_newline_append (depth : Nat) {text : String} (single : '\n' ∉ text.toList)
    (starts : ∃ first rest, List.replicate (2 * depth) ' ' ++ text.toList = first :: rest ∧ first ≠ '-') :
    Steady (Layout.indented.newline depth ++ text) := by
  intro front back same
  have shape : (Layout.indented.newline depth ++ text).toList =
      '\n' :: (List.replicate (2 * depth) ' ' ++ text.toList) := by
    have feed : "\n".toList = ['\n'] := rfl
    rw [Layout.indented, String.toList_append, String.toList_append, feed, String.toList_ofList, List.append_assoc]
    rfl
  have later : '\n' ∉ List.replicate (2 * depth) ' ' ++ text.toList := by
    simp [single]
  rw [shape] at same
  cases front with
  | nil =>
    rw [← (List.cons.inj same).2]
    exact starts
  | cons _ front =>
    rw [(List.cons.inj same).2] at later
    simp at later

theorem steady_newline (depth : Nat) : Steady (Layout.indented.newline (depth + 1)) := by
  have line := @steady_newline_append (depth + 1) "" (by decide) ⟨' ', _, rfl, by decide⟩
  rwa [String.append_empty] at line

theorem steady_newline_bracket (depth : Nat) {text : String} {bracket : Char} (spelled : text.toList = [bracket])
    (single : '\n' ≠ bracket) (other : bracket ≠ '-') : Steady (Layout.indented.newline depth ++ text) := by
  apply steady_newline_append depth
  · simp [spelled, single]
  · rw [spelled]
    cases depth with
    | zero => exact ⟨bracket, [], rfl, other⟩
    | succ depth => exact ⟨' ', _, rfl, by decide⟩

mutual

/-- No numeral of a value has a line feed. -/
def Value.OneLine : Value → Prop
  | .number text => '\n' ∉ text.toList
  | .list items => itemsOneLine items
  | .object members => membersOneLine members
  | _ => True

/-- No numeral of items has a line feed. -/
def itemsOneLine : List Value → Prop
  | [] => True
  | item :: rest => item.OneLine ∧ itemsOneLine rest

/-- No numeral of members has a line feed. -/
def membersOneLine : List (String × Value) → Prop
  | [] => True
  | (_, value) :: rest => value.OneLine ∧ membersOneLine rest

end

theorem steady_member (depth : Nat) (key : String) {text : String} (steady : Steady text) :
    Steady (Layout.indented.newline (depth + 1) ++ string key ++ Layout.indented.colon ++ text) :=
  (((steady_newline depth).append (steady_of_single (feed_not_mem_string key))).append
    (steady_of_single (by decide))).append steady

mutual

theorem steady_write (depth : Nat) : (value : Value) → value.OneLine → Steady (value.write .indented depth)
  | .null, _ => by
    rw [Value.write]
    exact steady_of_single (by decide)
  | .boolean value, _ => by
    rw [Value.write]
    exact steady_of_single (by cases value <;> decide)
  | .number text, single => by
    rw [Value.write]
    exact steady_of_single single
  | .text value, _ => by
    rw [Value.write]
    exact steady_of_single (feed_not_mem_string value)
  | .list [], _ => by
    rw [Value.write]
    exact steady_of_single (by decide)
  | .list (first :: rest), single => by
    rw [Value.OneLine, itemsOneLine] at single
    have opening : Steady "[" := steady_of_single (by decide)
    have closing := @steady_newline_bracket depth "]" _ rfl (by decide) (by decide)
    rw [Value.write]
    simpa only [String.append_assoc] using
      (((opening.append (steady_newline depth)).append (steady_write (depth + 1) first single.1)).append
        (steady_writeItems depth rest single.2)).append closing
  | .object [], _ => by
    rw [Value.write]
    exact steady_of_single (by decide)
  | .object ((key, value) :: rest), single => by
    rw [Value.OneLine, membersOneLine] at single
    have opening : Steady "\x7b" := steady_of_single (by decide)
    have closing := @steady_newline_bracket depth "\x7d" _ rfl (by decide) (by decide)
    have first := steady_member depth key (steady_write (depth + 1) value single.1)
    rw [Value.write]
    simpa only [String.append_assoc] using
      ((opening.append first).append (steady_writeMembers depth rest single.2)).append closing

theorem steady_writeItems (depth : Nat) :
    (items : List Value) → itemsOneLine items → Steady (writeItems .indented (depth + 1) items)
  | [], _ => by
    rw [writeItems]
    exact steady_of_single (by decide)
  | item :: rest, single => by
    rw [itemsOneLine] at single
    have comma : Steady "," := steady_of_single (by decide)
    rw [writeItems]
    exact ((comma.append (steady_newline depth)).append (steady_write (depth + 1) item single.1)).append
      (steady_writeItems depth rest single.2)

theorem steady_writeMembers (depth : Nat) :
    (members : List (String × Value)) → membersOneLine members →
      Steady (writeMembers .indented (depth + 1) members)
  | [], _ => by
    rw [writeMembers]
    exact steady_of_single (by decide)
  | (key, value) :: rest, single => by
    rw [membersOneLine] at single
    have comma : Steady "," := steady_of_single (by decide)
    have first := steady_member depth key (steady_write (depth + 1) value single.1)
    rw [writeMembers]
    simpa only [String.append_assoc] using
      (comma.append first).append (steady_writeMembers depth rest single.2)

end

theorem itemsOneLine_iff {items : List Value} : itemsOneLine items ↔ ∀ item ∈ items, item.OneLine := by
  induction items with
  | nil => simp [itemsOneLine]
  | cons item rest ih => rw [itemsOneLine, ih, List.forall_mem_cons]

theorem membersOneLine_append {first second : List (String × Value)} :
    membersOneLine (first ++ second) ↔ membersOneLine first ∧ membersOneLine second := by
  induction first with
  | nil => simp [membersOneLine]
  | cons member rest ih =>
    obtain ⟨key, value⟩ := member
    rw [List.cons_append, membersOneLine, membersOneLine, ih, and_assoc]

/-- A steady text that starts with no dash comes back out of an archive once its last line is ended. -/
theorem Steady.framed {text : String} (steady : Steady text) {first : Char} {rest : List Char}
    (spelled : text.toList = first :: rest) (other : first ≠ '-') : Archive.Framed (text ++ "\n") := by
  have shape : (text ++ "\n").toList = text.toList ++ ['\n'] := String.toList_append
  have behind : ∀ front back, (text ++ "\n").toList = front ++ '\n' :: back → back.head? ≠ some '-' := by
    intro front back same
    rw [shape] at same
    rcases List.append_eq_append_iff.mp same with ⟨middle, -, last⟩ | ⟨middle, inside, last⟩
    · have none : back = [] := by
        have length := congrArg List.length last
        simp only [List.length_append, List.length_cons, List.length_nil] at length
        exact List.length_eq_zero_iff.mp (by omega)
      simp [none]
    · cases middle with
      | nil => simp [(List.cons.inj last).2]
      | cons feed middle =>
        obtain ⟨rfl, rfl⟩ := List.cons.inj last
        obtain ⟨next, rest, rfl, different⟩ := steady front middle inside
        exact fun dash => different (Option.some.inj dash)
  constructor
  · exact .inr (by rw [shape, List.getLast?_concat])
  · intro line member
    apply Archive.markerName?_of_head?
    cases lines : Archive.lines (text ++ "\n").toList with
    | nil =>
      rw [lines] at member
      cases member
    | cons front later =>
      rw [lines, List.mem_cons] at member
      rcases member with rfl | among
      · rw [Archive.head?_of_lines lines, shape, spelled]
        exact fun same => other (Option.some.inj same)
      · have tail := Archive.head?_ne_of_feeds behind
        rw [lines] at tail
        exact tail line among

end Json

end KernelForge
