import KernelForge.Json.Record
import KernelForge.Proofs.Json.Reading

/-!
Records come back member by member. What a layout puts between members are blanks, the key of each member is looked up
among the fields, and its value is read by the field; a member that was left out changes nothing.
-/

namespace KernelForge.Json

open Text (Within bytesOf)

/-- A layout that only puts blanks between items and after colons. -/
structure Layout.Spaced (layout : Layout) : Prop where
  newline : ∀ depth, Blanks (bytesOf (layout.newline depth))
  colon : ∃ blanks, bytesOf layout.colon = ascii ':' :: blanks ∧ Blanks blanks

theorem spaced_compact : Layout.compact.Spaced where
  newline _ := by simp [Layout.compact, bytesOf, Blanks]
  colon := ⟨[], rfl, blanks_nil⟩

theorem spaced_indented : Layout.indented.Spaced where
  newline depth := by
    have feed : bytesOf "\n" = [0x0A] := rfl
    have space : String.utf8EncodeChar ' ' = [0x20] := rfl
    rw [Layout.indented, Text.bytesOf_append, feed]
    intro byte member
    simp only [bytesOf, String.toList_ofList, List.mem_append, List.mem_singleton, List.mem_flatMap,
      List.mem_replicate] at member
    rcases member with rfl | ⟨_, ⟨-, rfl⟩, member⟩
    · rfl
    · rw [space, List.mem_singleton] at member
      rw [member]
      rfl
  colon := ⟨[0x20], rfl, by simp [Blanks, isBlank]⟩

theorem ends_append {blanks : List UInt8} (blank : Blanks blanks) {byte : UInt8} (other : isDigit byte = false)
    (rest : List UInt8) : Ends (blanks ++ byte :: rest) := by
  cases blanks with
  | nil => simp [Ends, other]
  | cons first _ =>
    have space := blank first (by simp)
    cases digit : isDigit first with
    | false => simp [Ends, digit]
    | true =>
      rw [isBlank_of_isDigit digit] at space
      cases space

/-! ### Members -/

section Members

variable {σ : Type} {layout : Layout} {read : σ → Reading σ}

/-- The text of a member of an object. -/
def memberText (layout : Layout) (depth : Nat) (key : String) (value : Value) : String :=
  string key ++ layout.colon ++ value.write layout depth

theorem bytesOf_memberText (layout : Layout) (depth : Nat) (key : String) (value : Value) :
    ∃ more, bytesOf (memberText layout depth key value) = quoteByte :: more := by
  have quote : String.utf8EncodeChar '"' = [quoteByte] := rfl
  rw [memberText, Text.bytesOf_append, Text.bytesOf_append, string, bytesOf, String.toList_ofList, List.flatMap_cons,
    quote]
  exact ⟨_, rfl⟩

/-- Reading a member, behind any blanks, leads from one record to another. -/
def TakesMember (layout : Layout) (read : σ → Reading σ) (key : String) (value : Value) (held next : σ) : Prop :=
  ∀ blanks depth rest, Blanks blanks → Ends rest →
    Takes (read held) (blanks ++ bytesOf (memberText layout depth key value)) rest next

/-- Members that are read one after the other lead from one record to another. -/
inductive Gathers (layout : Layout) {σ : Type} (read : σ → Reading σ) : List (String × Value) → σ → σ → Prop
  | nil (held : σ) : Gathers layout read [] held held
  | cons {key : String} {value : Value} {rest : List (String × Value)} {held next last : σ}
    (first : TakesMember layout read key value held next) (later : Gathers layout read rest next last) :
    Gathers layout read ((key, value) :: rest) held last

theorem length_le_writeMembers (layout : Layout) (depth : Nat) (members : List (String × Value)) :
    members.length ≤ (bytesOf (writeMembers layout depth members)).length := by
  induction members with
  | nil => simp
  | cons member rest ih =>
    obtain ⟨key, value⟩ := member
    have comma : (bytesOf ",").length = 1 := rfl
    simp only [writeMembers, Text.bytesOf_append, List.length_append, List.length_cons, comma]
    omega

/-- Reading members goes on behind each comma and ends behind the brace. -/
theorem takes_readMembers (spaced : layout.Spaced) {members : List (String × Value)} {key : String} {value : Value}
    {held last : σ} (gathers : Gathers layout read ((key, value) :: members) held last) {fuel : Nat}
    (enough : members.length < fuel) {blanks : List UInt8} (blank : Blanks blanks) (outer inner : Nat)
    (after : List UInt8) :
    Takes (readMembers read fuel held)
      (blanks ++ bytesOf (memberText layout inner key value) ++
        (bytesOf (writeMembers layout inner members) ++ (bytesOf (layout.newline outer) ++ [0x7D]))) after last := by
  induction members generalizing key value held fuel blanks with
  | nil =>
    obtain _ | fuel := fuel
    · cases enough
    cases gathers with
    | cons first later =>
      cases later
      have ends : Ends (bytesOf (layout.newline outer) ++ 0x7D :: after) := ends_append (spaced.newline outer) rfl after
      rw [readMembers]
      refine (first blanks inner _ blank (by simpa [writeMembers, bytesOf] using ends)).bind ?_
      exact (takes_nextByte (spaced.newline outer) rfl after).last (takes_pure last after)
  | cons member rest ih =>
    obtain _ | fuel := fuel
    · cases enough
    obtain ⟨nextKey, nextValue⟩ := member
    cases gathers with
    | cons first later =>
      have spelled : bytesOf (writeMembers layout inner ((nextKey, nextValue) :: rest)) =
          ascii ',' :: (bytesOf (layout.newline inner) ++ bytesOf (memberText layout inner nextKey nextValue) ++
            bytesOf (writeMembers layout inner rest)) := by
        have comma : bytesOf "," = [ascii ','] := rfl
        simp only [writeMembers, memberText, Text.bytesOf_append, comma, List.append_assoc, List.cons_append,
          List.nil_append]
      rw [spelled, readMembers, List.cons_append, List.append_assoc _ _ (bytesOf (layout.newline outer) ++ _)]
      refine Takes.bind (first blanks inner _ blank ?_) ?_
      · rfl
      refine (takes_nextByte blanks_nil rfl _).bind ?_
      exact ih later (Nat.lt_of_succ_lt_succ enough) (spaced.newline inner)

/-- The text of an object behind its brace. -/
def insideText (layout : Layout) (depth : Nat) : List (String × Value) → String
  | [] => "\x7d"
  | (key, value) :: rest =>
    layout.newline (depth + 1) ++ memberText layout (depth + 1) key value ++
      writeMembers layout (depth + 1) rest ++ layout.newline depth ++ "\x7d"

theorem write_object (layout : Layout) (depth : Nat) (members : List (String × Value)) :
    (Value.object members).write layout depth = "\x7b" ++ insideText layout depth members := by
  cases members with
  | nil =>
    rw [Value.write]
    rfl
  | cons member rest =>
    rw [Value.write]
    simp only [insideText, memberText, String.append_assoc]

theorem takes_readInside (spaced : layout.Spaced) {members : List (String × Value)} {held last : σ}
    (gathers : Gathers layout read members held last) (depth : Nat) (rest : List UInt8) :
    Takes (readInside read held) (bytesOf (insideText layout depth members)) rest last := by
  cases gathers with
  | nil =>
    have brace : bytesOf (insideText layout depth []) = [0x7D] := by
      rw [insideText]
      rfl
    have closed : skipBlanks (0x7D :: rest) = 0x7D :: rest := skipBlanks_append blanks_nil rfl rest
    rw [brace]
    refine takes_remaining ?_
    rw [List.singleton_append, closed]
    exact takes_found rfl
  | @cons key value members held next last first later =>
    have spelled : bytesOf (insideText layout depth ((key, value) :: members)) =
        bytesOf (layout.newline (depth + 1)) ++ bytesOf (memberText layout (depth + 1) key value) ++
          (bytesOf (writeMembers layout (depth + 1) members) ++ (bytesOf (layout.newline depth) ++ [0x7D])) := by
      have brace : bytesOf "\x7d" = [0x7D] := rfl
      simp only [insideText, Text.bytesOf_append, brace, List.append_assoc]
    obtain ⟨more, quoted⟩ := bytesOf_memberText layout (depth + 1) key value
    have blank := spaced.newline (depth + 1)
    have solid : ∀ after, skipBlanks (bytesOf (layout.newline (depth + 1)) ++
        bytesOf (memberText layout (depth + 1) key value) ++ after) = quoteByte :: (more ++ after) := by
      intro after
      rw [quoted, List.append_assoc, List.cons_append, skipBlanks_append blank rfl]
    have enough := length_le_writeMembers layout (depth + 1) members
    rw [spelled]
    refine takes_remaining ?_
    rw [List.append_assoc, solid]
    change Takes (readMembers read _ held) _ rest last
    refine takes_readMembers spaced (.cons first later) ?_ blank depth (depth + 1) rest
    simp only [List.length_append, List.length_singleton]
    omega

end Members

/-! ### Records -/

section Records

variable {σ : Type} {layout : Layout} {mode : Mode} {fields : List (Field Unit Reading σ)}

/-- One level deeper, a reading takes the same. -/
theorem takes_nested {reading : Reading σ} {front rest : List UInt8} {value : σ}
    (taken : Takes reading front rest value) :
    Takes (do
      modify fun source => { source with depth := source.depth + 1 }
      let record ← reading
      modify fun source => { source with depth := source.depth - 1 }
      return record) front rest value := by
  intro depth
  change (reading ⟨front ++ rest, depth + 1⟩ >>= fun (record, source) =>
    Except.ok (record, { source with depth := source.depth - 1 })) = _
  rw [taken (depth + 1)]
  rfl

/-- A member is read by the field with its key. -/
theorem takesMember_of_find? (spaced : layout.Spaced) (small : ∀ key ∈ fields.map (·.key), Within isKeyCharacter key)
    {key : String} {field : Field Unit Reading σ} (known : fields.find? (·.key == key) = some field) {value : Value}
    {held next : σ} (reads : value.Reads layout (field.read () held) next) :
    TakesMember layout (readMember mode fields) key value held next := by
  intro blanks depth rest blank ends
  obtain ⟨after, colon, afterColon⟩ := spaced.colon
  have same : field.key = key := by simpa using List.find?_some known
  have listed : key ∈ fields.map (·.key) := same ▸ List.mem_map_of_mem (List.mem_of_find?_eq_some known)
  have spelled : blanks ++ bytesOf (memberText layout depth key value) =
      (blanks ++ bytesOf (string key)) ++ ([ascii ':'] ++ (after ++ bytesOf (value.write layout depth))) := by
    simp only [memberText, Text.bytesOf_append, colon, List.append_assoc, List.cons_append, List.nil_append]
  have found (behind : List UInt8) : memberKey? mode (fields.map (·.key)) (blanks ++ bytesOf (string key) ++ behind) =
      some (some key, behind) := by
    rw [List.append_assoc]
    exact memberKey?_string small listed blank behind
  rw [spelled]
  refine takes_remaining ?_
  rw [List.append_assoc (blanks ++ _), found]
  refine Takes.bind (takes_found rfl) ?_
  refine Takes.bind (takes_expect blanks_nil rfl _) ?_
  rw [Option.bind_some, known]
  exact reads after depth rest afterColon ends

/-- Members that the fields with their keys read one after the other lead from one record to another. -/
inductive Fills (layout : Layout) {σ : Type} (fields : List (Field Unit Reading σ)) :
    List (String × Value) → σ → σ → Prop
  | nil (held : σ) : Fills layout fields [] held held
  | cons {key : String} {value : Value} {rest : List (String × Value)} {held next last : σ}
    {field : Field Unit Reading σ} (known : fields.find? (·.key == key) = some field)
    (reads : value.Reads layout (field.read () held) next) (later : Fills layout fields rest next last) :
    Fills layout fields ((key, value) :: rest) held last

/-- A record is read from its members. -/
theorem reads_object (spaced : layout.Spaced) (keys : List String) (spelled : fields.map (·.key) = keys)
    (small : ∀ key ∈ keys, Within isKeyCharacter key) {members : List (String × Value)} {held last : σ}
    (fills : Fills layout fields members held last) :
    (Value.object members).Reads layout (readRecord mode fields held) last := by
  have gathers : Gathers layout (readMember mode fields) members held last := by
    induction fills with
    | nil held => exact .nil held
    | cons known reads _ ih => exact .cons (takesMember_of_find? spaced (spelled ▸ small) known reads) ih
  intro blanks depth rest blank _
  have brace : bytesOf "\x7b" = [0x7B] := rfl
  rw [write_object, Text.bytesOf_append, brace, ← List.append_assoc]
  exact (takes_nextByte blank rfl _).bind (takes_nested (takes_readInside spaced gathers depth rest))

namespace Fills

variable {held next last : σ} {key : String} {value : Value} {field : Field Unit Reading σ}
  (known : fields.find? (·.key == key) = some field)

theorem append {front back : List (String × Value)} (first : Fills layout fields front held next)
    (later : Fills layout fields back next last) : Fills layout fields (front ++ back) held last := by
  induction first with
  | nil => exact later
  | cons known reads _ ih => exact .cons known reads (ih later)

include known

theorem one (reads : value.Reads layout (field.read () held) next) :
    Fills layout fields (member key value) held next :=
  .cons known reads (.nil next)

/-- A member that is left out leaves the record as it is. -/
theorem optional {omitted : Prop} [Decidable omitted] (reads : value.Reads layout (field.read () held) next)
    (same : omitted → held = next) : Fills layout fields (if omitted then [] else member key value) held next := by
  split
  · next absent =>
    rw [same absent]
    exact .nil next
  · exact one known reads

theorem flagIfSet {flag : Bool} (reads : (Value.boolean flag).Reads layout (field.read () held) next)
    (same : flag = false → held = next) : Fills layout fields (flagIfSet key flag) held next := by
  cases flag with
  | false =>
    rw [same rfl]
    exact .nil next
  | true => exact one known reads

theorem optionalObject {dialect : Dialect} {members : List (String × Value)}
    (reads : (Value.object members).Reads layout (field.read () held) next) (same : members = [] → held = next) :
    Fills layout fields (optionalObject dialect key members) held next := by
  refine optional known reads fun omitted => same ?_
  simp only [Bool.and_eq_true, List.isEmpty_iff] at omitted
  exact omitted.1

end Fills

end Records

/-! ### Fields -/

section Fields

variable {σ α : Type} {layout : Layout} {mode : Mode}

theorem reads_of {value : Value} {reading : Unit → α → Reading α} {get : σ → α} {held : σ} {result : α}
    (reads : value.Reads layout (reading () (get held)) result) (key : String) (put : σ → α → σ) :
    value.Reads layout ((Field.of key get put reading).read () held) (put held result) := by
  intro blanks depth rest blank ends
  exact (reads blanks depth rest blank ends).last (takes_pure _ rest)

theorem reads_uint16 (value held : UInt16) :
    (Value.natural value.toNat).Reads layout ((format mode).uint16 () held) value := by
  intro blanks depth rest blank ends
  have number := @reads_natural layout mode held.toNat UInt16.size value.toNat value.toNat_lt (by decide)
  refine (number blanks depth rest blank ends).last ?_
  rw [UInt16.ofNat_toNat]
  exact takes_pure value rest

theorem reads_field {text : String} {value : α} {parse : String → Except Failure α} (plain : Within isPlain text)
    (known : parse text = .ok value) (key : String) (put : σ → α → σ) (clear : σ → σ) (held : σ) :
    (Value.text text).Reads layout (((format mode).field key parse put clear).read () held) (put held value) :=
  @reads_named layout σ α mode ⟨parse, put, clear⟩ held text value plain known

end Fields

/-! ### Documents -/

/-- A reading that leaves nothing behind is one of the whole text. -/
theorem whole_of_run {α : Type} {reading : Reading α} {bytes : List UInt8} {value : α} {depth : Nat}
    (run : reading ⟨bytes, 0⟩ = .ok (value, ⟨[], depth⟩)) : reading.whole bytes = .ok value := by
  rw [Reading.whole, StateT.run, run]
  rfl

/-- A document is read from the text of a value. -/
theorem readOnto_write {α : Type} {layout : Layout} {value : Value} {read : Unit → α → Reading α} {held result : α}
    (reads : value.Reads layout (read () held) result) (depth : Nat) :
    readOnto read (value.write layout depth) held = .ok result := by
  have run := reads [] depth [] blanks_nil rfl 0
  rw [List.nil_append, List.append_nil] at run
  exact whole_of_run run

end KernelForge.Json
