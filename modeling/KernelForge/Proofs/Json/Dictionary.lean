import KernelForge.Proofs.Json.Record

/-!
Named values by key come back as they were written. They are read twice: once passed over, up to the brace that closes
them, which is found because no name has a brace or a quote of its own, and once member by member.
-/

namespace KernelForge.Json

open Text (Within bytesOf)

/-! ### Passing over an object -/

/-- Outside of strings, bytes that neither open nor close anything. -/
def Passed (front : List UInt8) : Prop :=
  ∀ pending depth rest, afterNested? 0x7B 0x7D false pending depth (front ++ rest) =
    afterNested? 0x7B 0x7D false pending depth rest

theorem passed_nil : Passed [] :=
  fun _ _ _ => rfl

theorem Passed.append {front back : List UInt8} (first : Passed front) (later : Passed back) :
    Passed (front ++ back) := by
  intro pending depth rest
  rw [List.append_assoc, first, later]

/-- The bytes that passing over an object looks at outside of strings. -/
def structural : List UInt8 :=
  [0, quoteByte, 0x5B, 0x7B, 0x5D, 0x7D]

theorem passed_singleton {byte : UInt8} (other : byte ∉ structural) : Passed [byte] := by
  intro pending depth rest
  simp only [structural, List.mem_cons, List.not_mem_nil, or_false, not_or] at other
  obtain ⟨zero, quote, list, brace, endList, endBrace⟩ := other
  rw [List.singleton_append, afterNested?]
  · simp [zero, quote, list, brace, endList, endBrace]
  · exact fun _ _ => Bool.noConfusion

theorem passed_blanks {blanks : List UInt8} (blank : Blanks blanks) : Passed blanks := by
  induction blanks with
  | nil => exact passed_nil
  | cons byte later ih =>
    obtain ⟨first, others⟩ := List.forall_mem_cons.mp blank
    have other : byte ∉ structural := by
      intro member
      have solid : ∀ byte ∈ structural, isBlank byte = false := by decide +kernel
      rw [solid byte member] at first
      cases first
    exact (passed_singleton other).append (ih others)

/-- Inside of a string its closing quote is looked for. -/
theorem afterNested?_inert {bytes : List UInt8} (inert : Inert bytes) (pending : Nat) (depth : Int)
    (rest : List UInt8) : afterNested? 0x7B 0x7D true pending depth (bytes ++ quoteByte :: rest) =
      afterNested? 0x7B 0x7D false pending depth rest := by
  induction bytes with
  | nil =>
    have solid : quoteByte ≠ 0 := by decide
    rw [List.nil_append, afterNested?]
    · simp [solid]
    · exact fun _ _ _ same => absurd same (by decide)
  | cons byte later ih =>
    obtain ⟨⟨visible, quote, escape⟩, others⟩ := Inert.cons_iff.mp inert
    have inside : (byte != quoteByte) = true := by simpa using quote
    rw [List.cons_append, afterNested?, if_neg (ne_zero_of_le visible), if_pos rfl, inside, ih others]
    exact fun _ _ _ same => absurd same escape

theorem passed_string {text : String} (plain : Within isPlain text) : Passed (bytesOf (string text)) := by
  intro pending depth rest
  rw [bytesOf_string plain, List.cons_append, List.append_assoc, List.singleton_append, afterNested?]
  · have solid : quoteByte ≠ 0 := by decide
    simpa [solid] using afterNested?_inert (inert_bytesOf plain) pending depth rest
  · exact fun _ _ => Bool.noConfusion

/-! ### Members -/

section Members

variable {α : Type} {layout : Layout} {name : α → String}

/-- The members of named values. -/
def namedMembers (name : α → String) (entries : List (String × α)) : List (String × Value) :=
  entries.map fun (key, value) => (key, .text (name value))

/-- Keys and names of one line without quotes and backslashes. -/
def PlainEntries (name : α → String) (entries : List (String × α)) : Prop :=
  ∀ entry ∈ entries, Within isPlain entry.1 ∧ Within isPlain (name entry.2)

theorem passed_colon (spaced : layout.Spaced) : Passed (bytesOf layout.colon) := by
  obtain ⟨blanks, spelled, blank⟩ := spaced.colon
  rw [spelled, ← List.singleton_append]
  exact (passed_singleton (by decide)).append (passed_blanks blank)

theorem passed_memberText (spaced : layout.Spaced) (depth : Nat) {key text : String} (plainKey : Within isPlain key)
    (plain : Within isPlain text) : Passed (bytesOf (memberText layout depth key (.text text))) := by
  rw [memberText, Text.bytesOf_append, Text.bytesOf_append, Value.write]
  exact ((passed_string plainKey).append (passed_colon spaced)).append (passed_string plain)

theorem passed_writeMembers (spaced : layout.Spaced) (depth : Nat) {entries : List (String × α)}
    (plain : PlainEntries name entries) : Passed (bytesOf (writeMembers layout depth (namedMembers name entries))) := by
  induction entries with
  | nil => exact passed_nil
  | cons entry rest ih =>
    obtain ⟨key, value⟩ := entry
    obtain ⟨⟨plainKey, plainName⟩, others⟩ := List.forall_mem_cons.mp plain
    have comma : Passed (bytesOf ",") := passed_singleton (by decide)
    have member := passed_memberText spaced depth plainKey plainName
    have spelled : bytesOf (writeMembers layout depth (namedMembers name ((key, value) :: rest))) =
        bytesOf "," ++ bytesOf (layout.newline depth) ++ bytesOf (memberText layout depth key (.text (name value))) ++
          bytesOf (writeMembers layout depth (namedMembers name rest)) := by
      simp only [namedMembers, List.map_cons, writeMembers, memberText, Text.bytesOf_append, List.append_assoc]
    rw [spelled]
    exact ((comma.append (passed_blanks (spaced.newline depth))).append member).append (ih others)

/-- The text of an object behind its brace is passed over up to the brace that closes it. -/
theorem afterNested?_insideText (spaced : layout.Spaced) (outer : Nat) {entries : List (String × α)}
    (plain : PlainEntries name entries) (depth : Int) (rest : List UInt8) :
    afterNested? 0x7B 0x7D false 1 depth (bytesOf (insideText layout outer (namedMembers name entries)) ++ rest) =
      some rest := by
  have closing : afterNested? 0x7B 0x7D false 1 depth (0x7D :: rest) = some rest := by
    have other : (0x7D : UInt8) ≠ quoteByte := by decide
    rw [afterNested?]
    · simp [other]
    · exact fun _ _ => Bool.noConfusion
  have brace : bytesOf "\x7d" = [0x7D] := rfl
  cases entries with
  | nil =>
    rw [namedMembers, List.map_nil, insideText, brace]
    exact closing
  | cons entry later =>
    obtain ⟨key, value⟩ := entry
    obtain ⟨⟨plainKey, plainName⟩, others⟩ := List.forall_mem_cons.mp plain
    have newline (depth : Nat) := passed_blanks (spaced.newline depth)
    have passed := (((newline (outer + 1)).append (passed_memberText spaced (outer + 1) plainKey plainName)).append
      (passed_writeMembers spaced (outer + 1) others)).append (newline outer)
    have spelled : bytesOf (insideText layout outer (namedMembers name ((key, value) :: later))) =
        bytesOf (layout.newline (outer + 1)) ++
            bytesOf (memberText layout (outer + 1) key (.text (name value))) ++
            bytesOf (writeMembers layout (outer + 1) (namedMembers name later)) ++ bytesOf (layout.newline outer) ++
          [0x7D] := by
      simp only [namedMembers, List.map_cons, insideText, Text.bytesOf_append, brace]
    rw [spelled, List.append_assoc, List.singleton_append, passed, closing]

theorem rawValue?_object (spaced : layout.Spaced) (mode : Mode) {entries : List (String × α)}
    (plain : PlainEntries name entries) {blanks : List UInt8} (blank : Blanks blanks) (outer depth : Nat)
    (rest : List UInt8) :
    rawValue? mode depth (blanks ++ bytesOf ((Value.object (namedMembers name entries)).write layout outer) ++ rest) =
      some (bytesOf ((Value.object (namedMembers name entries)).write layout outer), rest) := by
  have brace : bytesOf "\x7b" = [0x7B] := rfl
  rw [write_object, Text.bytesOf_append, brace, List.append_assoc, List.singleton_append]
  refine rawValue?_append blank rfl ?_
  rw [List.cons_append, afterValue?]
  exact afterNested?_insideText spaced outer plain _ rest

/-! ### Reading the members -/

theorem takes_readText (mode : Mode) (held : String) {blanks : List UInt8} (blank : Blanks blanks) {text : String}
    (plain : Within isPlain text) (rest : List UInt8) :
    Takes (readText mode held) (blanks ++ bytesOf (string text)) rest text := by
  have spelled : blanks ++ bytesOf (string text) = (blanks ++ [quoteByte]) ++ (bytesOf text ++ [quoteByte]) := by
    rw [bytesOf_string plain, List.append_assoc, List.singleton_append]
  rw [spelled]
  refine (takes_nextByte blank rfl _).bind ?_
  refine takes_remaining ?_
  rw [List.append_assoc (bytesOf text), List.singleton_append, looseParts?_append (inert_bytesOf plain)]
  refine (takes_found rfl).last ?_
  rw [partBytes_map, Text.ofBytes_bytesOf (single_of_plain plain)]
  exact takes_pure text rest

variable {parse : String → Except Failure α} {absent : α}

theorem takesMember_readEntry (spaced : layout.Spaced) {key : String} {value : α} (plainKey : Within isPlain key)
    (plain : Within isPlain (name value)) (known : parse (name value) = .ok value) (held : List (String × α)) :
    TakesMember layout (readEntry parse absent) key (.text (name value)) held (held ++ [(key, value)]) := by
  intro blanks depth rest blank ends
  obtain ⟨after, colon, afterColon⟩ := spaced.colon
  have spelled : blanks ++ bytesOf (memberText layout depth key (.text (name value))) =
      (blanks ++ bytesOf (string key)) ++
        ([ascii ':'] ++ (after ++ bytesOf ((Value.text (name value)).write layout depth))) := by
    simp only [memberText, Text.bytesOf_append, colon, List.append_assoc, List.cons_append, List.nil_append]
  rw [spelled]
  refine (takes_readText .document "" blank plainKey _).bind ?_
  refine Takes.bind (takes_expect blanks_nil rfl _) ?_
  refine Takes.last (@reads_named layout α α .document ⟨parse, fun _ value => value, fun _ => absent⟩ absent
    (name value) value plain known after depth rest afterColon ends) ?_
  exact takes_pure _ rest

theorem gathers_entries (spaced : layout.Spaced) {entries : List (String × α)} (plain : PlainEntries name entries)
    (known : ∀ entry ∈ entries, parse (name entry.2) = .ok entry.2) (held : List (String × α)) :
    Gathers layout (readEntry parse absent) (namedMembers name entries) held (held ++ entries) := by
  induction entries generalizing held with
  | nil =>
    rw [List.append_nil]
    exact .nil held
  | cons entry rest ih =>
    obtain ⟨key, value⟩ := entry
    obtain ⟨⟨plainKey, plainName⟩, others⟩ := List.forall_mem_cons.mp plain
    obtain ⟨parsed, later⟩ := List.forall_mem_cons.mp known
    have tail := ih others later (held ++ [(key, value)])
    rw [List.append_assoc, List.singleton_append] at tail
    exact .cons (takesMember_readEntry spaced plainKey plainName parsed held) tail

/-- Named values are read from the object that holds their names. -/
theorem reads_dictionary (spaced : layout.Spaced) (mode : Mode) {entries : List (String × α)}
    (plain : PlainEntries name entries) (known : ∀ entry ∈ entries, parse (name entry.2) = .ok entry.2) :
    (Value.object (namedMembers name entries)).Reads layout (readDictionary mode parse absent) entries := by
  intro blanks outer rest blank _
  have raw : Takes (readRaw mode) (blanks ++ bytesOf ((Value.object (namedMembers name entries)).write layout outer))
      rest (bytesOf ((Value.object (namedMembers name entries)).write layout outer)) :=
    takes_readRaw mode fun depth => rawValue?_object spaced mode plain blank outer depth rest
  -- The object is read again on its own, and nothing is left behind it.
  have whole : Reading.whole (do
      let byte ← nextByte
      if byte = ascii 'n' then word .document "ull" []
      else if byte = 0x7B then
        modify fun source => { source with depth := source.depth + 1 }
        readInside (readEntry parse absent) []
      else throw malformed) (bytesOf ((Value.object (namedMembers name entries)).write layout outer)) =
        .ok entries := by
    have gathers := @gathers_entries α layout name parse absent spaced entries plain known []
    have inside := takes_readInside spaced gathers outer [] 1
    have brace : bytesOf "\x7b" = [0x7B] := rfl
    rw [List.append_nil, List.nil_append] at inside
    rw [write_object, Text.bytesOf_append, brace]
    exact whole_of_run (Eq.trans rfl inside)
  refine raw.last ?_
  dsimp only
  rw [whole]
  exact takes_pure entries rest

end Members

end KernelForge.Json
