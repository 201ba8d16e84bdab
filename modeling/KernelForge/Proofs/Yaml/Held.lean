import KernelForge.Proofs.Cell
import KernelForge.Proofs.Text.Numeral
import KernelForge.Yaml.Printer
import KernelForge.Yaml.Reading

/-!
Reading what was written. A node holds a value if its scalars have the texts that were written for it. From such a node,
in a document without aliases, the typed readers give the value back: integers from their numerals, texts from
themselves, lists item by item and records key by key.
-/

namespace KernelForge.Yaml

mutual

/-- Whether a node holds a value: its scalars are the numerals, texts and keys of the value, and are told apart. -/
def Tree.heldBy : Tree → Node → Bool
  | .integer value, .scalar _ tag text => tag == "!!int" && text == toString value
  | .text value, .scalar _ tag text => tag == "!!str" && text == value
  | .list items, .sequence tag nodes => tag == "!!seq" && itemsHeldBy items nodes
  | .record entries, .mapping tag nodes => tag == "!!map" && entriesHeldBy entries nodes
  | _, _ => false

/-- Whether nodes are the texts of a list. -/
def itemsHeldBy : List String → List Node → Bool
  | [], [] => true
  | item :: items, .scalar _ tag text :: nodes => tag == "!!str" && text == item && itemsHeldBy items nodes
  | _, _ => false

/-- Whether nodes are the keys of a record with nodes that hold their values. -/
def entriesHeldBy : List (String × Tree) → List (Node × Node) → Bool
  | [], [] => true
  | (key, value) :: entries, (.scalar _ tag text, node) :: nodes =>
    tag == "!!str" && text == key && value.heldBy node && entriesHeldBy entries nodes
  | _, _ => false

end

/-- Whether a value is found again in the document that is written for it. -/
def Tree.Returns (tree : Tree) : Prop :=
  ∃ document, parse tree.document = some (some document) ∧ tree.heldBy document.root = true

theorem exists_of_integer_heldBy {value : Int} {node : Node} (holds : (Tree.integer value).heldBy node = true) :
    ∃ line, node = .scalar line "!!int" (toString value) := by
  cases node with
  | scalar line tag text =>
    rw [Tree.heldBy, Bool.and_eq_true, beq_iff_eq, beq_iff_eq] at holds
    obtain ⟨rfl, rfl⟩ := holds
    exact ⟨line, rfl⟩
  | _ => cases holds

theorem exists_of_list_heldBy {items : List String} {node : Node} (holds : (Tree.list items).heldBy node = true) :
    ∃ nodes, node = .sequence "!!seq" nodes ∧ itemsHeldBy items nodes = true := by
  cases node with
  | sequence tag nodes =>
    rw [Tree.heldBy, Bool.and_eq_true, beq_iff_eq] at holds
    obtain ⟨rfl, each⟩ := holds
    exact ⟨nodes, rfl, each⟩
  | _ => cases holds

theorem exists_of_record_heldBy {entries : List (String × Tree)} {node : Node}
    (holds : (Tree.record entries).heldBy node = true) :
    ∃ nodes, node = .mapping "!!map" nodes ∧ entriesHeldBy entries nodes = true := by
  cases node with
  | mapping tag nodes =>
    rw [Tree.heldBy, Bool.and_eq_true, beq_iff_eq] at holds
    obtain ⟨rfl, each⟩ := holds
    exact ⟨nodes, rfl, each⟩
  | _ => cases holds

theorem exists_of_itemsHeldBy {item : String} {items : List String} {nodes : List Node}
    (holds : itemsHeldBy (item :: items) nodes = true) :
    ∃ line rest, nodes = .scalar line "!!str" item :: rest ∧ itemsHeldBy items rest = true := by
  unfold itemsHeldBy at holds
  split at holds
  · rename_i none
    cases none
  · rename_i line tag text rest spelled
    cases spelled
    rw [Bool.and_eq_true, Bool.and_eq_true, beq_iff_eq, beq_iff_eq] at holds
    obtain ⟨⟨rfl, rfl⟩, each⟩ := holds
    exact ⟨line, rest, rfl, each⟩
  · cases holds

theorem exists_of_entriesHeldBy {key : String} {value : Tree} {entries : List (String × Tree)}
    {nodes : List (Node × Node)}
    (holds : entriesHeldBy ((key, value) :: entries) nodes = true) :
    ∃ line node rest, nodes = (.scalar line "!!str" key, node) :: rest ∧ value.heldBy node = true ∧
      entriesHeldBy entries rest = true := by
  unfold entriesHeldBy at holds
  split at holds
  · rename_i none
    cases none
  · rename_i line tag text node rest spelled
    cases spelled
    rw [Bool.and_eq_true, Bool.and_eq_true, Bool.and_eq_true, beq_iff_eq, beq_iff_eq] at holds
    obtain ⟨⟨⟨rfl, rfl⟩, inner⟩, each⟩ := holds
    exact ⟨line, node, rest, rfl, inner, each⟩
  · cases holds

/-! ### Readings -/

section Readings

variable {α β : Type} {reading : Reading α} {value : α}

/-- Nothing of the wrong type was met, and no alias. -/
structure Progress.Clean (progress : Progress) : Prop where
  matched : progress.mismatched = false
  direct : progress.aliasVisits = 0
  outside : progress.active = []

theorem Progress.Clean.visited {progress : Progress} (clean : progress.Clean) : progress.visited.Clean where
  matched := clean.matched
  direct := by
    have none : progress.active.isEmpty = true := by rw [clean.outside]; rfl
    simp only [Progress.visited, none, if_true, clean.direct]
  outside := clean.outside

/-- A reading gives a value where nothing was wrong before, and nothing is wrong after it. -/
def Yields (reading : Reading α) (value : α) : Prop :=
  ∀ surroundings progress, 0 < surroundings.depth → progress.Clean →
    ∃ next, reading surroundings progress = .ok (value, next) ∧ next.Clean

theorem yields_pure (value : α) : Yields (pure value) value :=
  fun _ progress _ clean => ⟨progress, rfl, clean⟩

theorem Yields.bind {next : α → Reading β} {result : β} (first : Yields reading value)
    (then_ : Yields (next value) result) : Yields (reading >>= next) result := by
  intro surroundings progress deep clean
  obtain ⟨middle, read, tidy⟩ := first surroundings progress deep clean
  have split : (reading >>= next) surroundings progress =
      reading surroundings progress >>= fun found => next found.1 surroundings found.2 := rfl
  rw [split, read]
  exact then_ surroundings middle deep tidy

theorem yields_countVisit : Yields countVisit () := by
  intro surroundings progress _ clean
  have calm : progress.visited.isExcessive = false := by
    simp [Progress.isExcessive, clean.visited.direct]
  refine ⟨progress.visited, ?_, clean.visited⟩
  have split : countVisit surroundings progress =
      (if progress.visited.isExcessive then throw malformed else pure () : Reading Unit)
        surroundings progress.visited := rfl
  rw [split, calm]
  rfl

/-- A node that is no alias is visited by reading it. -/
theorem yields_visit {node : Node} {readNode : Node → Reading α}
    (direct : visit node readNode = countVisit >>= fun _ => readNode node) (read : Yields (readNode node) value) :
    Yields (visit node readNode) value := by
  rw [direct]
  exact yields_countVisit.bind read

theorem yields_denoted {tag text : String} {value : Value} (denotes : valueWithTag? tag text = some value) :
    Yields (denoted tag text) value := by
  rw [denoted, denotes]
  exact yields_pure value

theorem yields_written (text : String) : Yields (written? "!!str" text) (some text) :=
  (@yields_denoted "!!str" text (.text text) rfl).bind (yields_pure (some text))

end Readings

/-! ### Integers -/

theorem integer?_numeral {number : Nat} (fits : number < 2 ^ 64) :
    integer? (toString number).toList = some (number : Int) := by
  have digits := Text.within_numeral number
  have value := Text.magnitude?_numeral number
  unfold Text.Within at digits
  generalize (toString number).toList = characters at digits value
  have letter {first second : Char} {rest : List Char} (spelled : characters = first :: second :: rest)
      (other : second.isDigit = false) : False := by
    rw [digits second (by simp [spelled])] at other
    cases other
  have sign {first : Char} {rest : List Char} (spelled : characters = first :: rest)
      (other : first.isDigit = false) : False := by
    rw [digits first (by simp [spelled])] at other
    cases other
  unfold integer?
  split
  case h_7 =>
    have short : number ≤ 0xFFFFFFFFFFFFFFFF := Nat.le_of_lt_succ fits
    rw [value, Option.bind_some, withSign?]
    simp [short]
  case h_5 | h_6 => exact (sign rfl (by decide)).elim
  all_goals exact (letter rfl (by decide)).elim

/-- A numeral is none of the words that stand for something else. -/
theorem contains_numeral {words : List String} (apart : ∀ word ∈ words, word.toList.head?.all (!·.isDigit) = true)
    (number : Nat) : words.contains (toString number) = false := by
  rw [Bool.eq_false_iff]
  intro found
  have other := apart _ (List.contains_iff_mem.mp found)
  obtain ⟨first, rest, spelled, digit⟩ := Text.spelled_numeral number
  rw [spelled, List.head?_cons, Option.all_some, digit] at other
  cases other

theorem resolve_numeral {number : Nat} (fits : number < 2 ^ 64) :
    resolve false (toString number) = .integer number := by
  have plain : (toString number).toList.filter (· != '_') = (toString number).toList := by
    refine List.filter_eq_self.mpr fun character member => ?_
    have digit := Text.within_numeral number character member
    rw [bne_iff_ne]
    rintro rfl
    cases digit
  have whole : numeral (toString number) = .integer number := by
    simp only [numeral, plain, integer?_numeral fits]
  unfold resolve
  rw [contains_numeral (by decide), contains_numeral (by decide), contains_numeral (by decide),
    contains_numeral (by decide), contains_numeral (by decide), contains_numeral (by decide)]
  simp only [Bool.false_eq_true, if_false]
  obtain ⟨first, rest, spelled, digit⟩ := Text.spelled_numeral number
  have decimal : Text.isDecimalDigit first = true :=
    (Text.isDecimal_numeral number).2 first (by rw [spelled]; exact List.mem_cons_self)
  have dot : (first == '.') = false := by
    rw [beq_eq_false_iff_ne]
    rintro rfl
    cases digit
  simp only [spelled, List.head?_cons, dot, decimal, Bool.true_or, Bool.false_and, Bool.false_eq_true, if_false,
    if_true, whole]

theorem valueWithTag?_numeral {number : Nat} (fits : number < 2 ^ 64) :
    valueWithTag? "!!int" (toString number) = some (.integer number) := by
  have timeless : decide ("!!int" = "!!timestamp") = false := by decide
  unfold valueWithTag?
  rw [if_neg (by decide), if_pos (by decide), timeless]
  simp only [resolve_numeral fits, Value.tag, if_true]

/-! ### Values -/

section Values

variable {σ : Type}

/-- Whatever node holds a value is read onto what is held with a result. -/
def Tree.Reads (tree : Tree) (read : Node → σ → Reading σ) (held result : σ) : Prop :=
  ∀ node, tree.heldBy node = true → Yields (read node held) result

theorem reads_value {number : Nat} (fits : number < 2 ^ 64) {accept : Value → Option σ} {value : σ}
    (accepted : accept (.integer number) = some value) (held : σ) :
    (Tree.integer number).Reads (readValue accept) held value := by
  intro node holds
  obtain ⟨line, rfl⟩ := exists_of_integer_heldBy holds
  refine yields_visit rfl ((yields_denoted (valueWithTag?_numeral fits)).bind ?_)
  simp only [accepted]
  exact yields_pure value

theorem reads_unsigned {greatest number : Nat} (fits : number < 2 ^ 64) (within : number ≤ greatest) (held : Nat) :
    (Tree.integer number).Reads (readUnsigned greatest) held number := by
  refine reads_value fits ?_ held
  simp [within]

theorem reads_uint16 (value held : UInt16) : (Tree.integer value.toNat).Reads readUInt16 held value := by
  intro node holds
  have bound : value.toNat < 2 ^ 16 := value.toNat_lt
  have read := reads_unsigned (by omega) (Nat.le_of_lt_succ bound) held.toNat node holds
  exact read.bind (UInt16.ofNat_toNat ▸ yields_pure _)

theorem reads_uint32 (value held : UInt32) : (Tree.integer value.toNat).Reads readUInt32 held value := by
  intro node holds
  have bound : value.toNat < 2 ^ 32 := value.toNat_lt
  have read := reads_unsigned (by omega) (Nat.le_of_lt_succ bound) held.toNat node holds
  exact read.bind (UInt32.ofNat_toNat ▸ yields_pure _)

theorem reads_int64 {value : Int64} (positive : 0 < value) (held : Int64) :
    (Tree.integer value.toInt).Reads readInt64 held value := by
  have least : 0 < value.toInt := Int64.lt_iff_toInt_lt.mp positive
  have greatest : value.toInt < 2 ^ 63 := Int64.toInt_lt value
  obtain ⟨number, same⟩ := Int.eq_ofNat_of_zero_le least.le
  rw [same]
  refine reads_value (by omega) ?_ held
  have short : (number : Int) ≤ 0x7FFFFFFFFFFFFFFF := by omega
  simp only [short, if_true]
  rw [← same, Int64.ofInt_toInt]

/-! ### Lists and records -/

/-- A list is read item by item. -/
theorem reads_list {read : Node → Reading (Option σ)} {text : σ → String} {values : List σ}
    (each : ∀ value ∈ values, ∀ line, Yields (read (.scalar line "!!str" (text value))) (some value)) (held : List σ) :
    (Tree.list (values.map text)).Reads (readList read) held values := by
  intro node holds
  obtain ⟨nodes, rfl, items⟩ := exists_of_list_heldBy holds
  refine yields_visit rfl ?_
  have steps : ∀ (values : List σ) (nodes : List Node) (done : List σ), itemsHeldBy (values.map text) nodes = true →
      (∀ value ∈ values, ∀ line, Yields (read (.scalar line "!!str" (text value))) (some value)) →
      Yields (List.filterMapM.loop read nodes done) (done.reverse ++ values) := by
    intro values
    induction values with
    | nil =>
      intro nodes done none _
      cases nodes with
      | nil =>
        rw [List.append_nil]
        exact yields_pure _
      | cons node rest => cases none
    | cons value rest ih =>
      intro nodes done some each
      obtain ⟨first, later⟩ := List.forall_mem_cons.mp each
      obtain ⟨line, others, rfl, items⟩ := exists_of_itemsHeldBy some
      rw [List.filterMapM.loop]
      refine (first line).bind ?_
      have whole := ih others (value :: done) items later
      rwa [List.reverse_cons, List.append_assoc, List.singleton_append] at whole
  exact steps values nodes [] items each

/-- Entries of a record that are read one after the other lead from one value to another. -/
inductive Gathers (fields : List (Field σ)) : List (String × Tree) → σ → σ → Prop
  | nil (held : σ) : Gathers fields [] held held
  | cons {key : String} {tree : Tree} {rest : List (String × Tree)} {field : Field σ} {held next last : σ}
    (known : fields.find? (·.key == key) = some field) (first : tree.Reads field.read held next)
    (later : Gathers fields rest next last) : Gathers fields ((key, tree) :: rest) held last

theorem reads_of {α : Type} {key : String} {tree : Tree} {get : σ → α} {put : σ → α → σ} {read : Node → α → Reading α}
    {held : σ} {value : α} (reads : tree.Reads read (get held) value) :
    tree.Reads (Field.of key get put read).read held (put held value) :=
  fun node holds => (reads node holds).bind (yields_pure _)

section Entries

variable {fields : List (Field σ)} {entries : List (String × Tree)} {nodes : List (Node × Node)}

/-- The keys of a record are scalars with the texts that were written. -/
theorem exists_key_of_entriesHeldBy (holds : entriesHeldBy entries nodes = true) :
    ∀ entry ∈ nodes, ∃ line, ∃ written ∈ entries, entry.1 = .scalar line "!!str" written.1 := by
  induction entries generalizing nodes with
  | nil =>
    cases nodes with
    | nil => simp
    | cons node rest => cases holds
  | cons written rest ih =>
    obtain ⟨line, node, others, rfl, -, each⟩ := exists_of_entriesHeldBy holds
    intro entry member
    obtain rfl | member := List.mem_cons.mp member
    · exact ⟨line, written, List.mem_cons_self, rfl⟩
    · obtain ⟨line, found, among, same⟩ := ih each entry member
      exact ⟨line, found, List.mem_cons_of_mem _ among, same⟩

theorem hasRepeatedKey_of_heldBy (holds : entriesHeldBy entries nodes = true)
    (distinct : (entries.map Prod.fst).Nodup) : hasRepeatedKey nodes = false := by
  induction entries generalizing nodes with
  | nil =>
    cases nodes with
    | nil => rfl
    | cons node rest => cases holds
  | cons written rest ih =>
    obtain ⟨line, node, others, rfl, -, each⟩ := exists_of_entriesHeldBy holds
    obtain ⟨new, distinct⟩ := List.nodup_cons.mp distinct
    rw [hasRepeatedKey, ih each distinct, Bool.or_false, List.any_eq_false]
    intro entry member same
    obtain ⟨line, found, among, spelled⟩ := exists_key_of_entriesHeldBy each entry member
    rw [spelled, Node.sameKey, beq_iff_eq] at same
    exact new (List.mem_map.mpr ⟨found, among, same.symm⟩)

theorem isMergeKey_of_heldBy (holds : entriesHeldBy entries nodes = true) :
    ∀ entry ∈ nodes, entry.1.isMergeKey = false := by
  intro entry member
  obtain ⟨line, found, -, spelled⟩ := exists_key_of_entriesHeldBy holds entry member
  have tag : ("!!str" == "!!merge") = false := by decide
  rw [spelled, Node.isMergeKey, tag, Bool.and_false]

/-- An entry under a key that was not met before is read by the reader of its name. -/
theorem yields_readEntry {reader : EntryReader σ} {line : Nat} {key : String} {node : Node} {held next : σ}
    {done : List String} (fresh : key ∉ done) (read : Yields (reader.read false key node held) next) :
    Yields (readEntry reader { value := held, taken := none, done } (.scalar line "!!str" key, node))
      { value := next, taken := none, done := key :: done } := by
  have named : Yields (readKey (.scalar line "!!str" key)) (some key) := yields_visit rfl (yields_written key)
  have tag : ("!!str" == "!!merge") = false := by decide
  have new : done.contains key = false := by simpa using fresh
  unfold readEntry
  rw [Node.isMergeKey, tag, Bool.and_false, if_neg Bool.false_ne_true]
  refine named.bind ?_
  simp only [Option.getD_none, List.contains_nil, Bool.false_eq_true, if_false, Option.map_none, new, Bool.and_false,
    Option.isSome_none]
  exact read.bind (yields_pure _)

/-- How the entries of a record are read. -/
def fieldReader (strict : Bool) (fields : List (Field σ)) : EntryReader σ where
  once name := fields.any (·.key == name)
  read _ name node record :=
    match fields.find? (·.key == name) with
    | some field => field.read node record
    | none => if strict then mismatch record else return record

/-- Entries with different keys are read one after the other. -/
theorem yields_foldlM_readEntry {held last : σ} (gathers : Gathers fields entries held last) (strict : Bool)
    (distinct : (entries.map Prod.fst).Nodup) (holds : entriesHeldBy entries nodes = true) {done : List String}
    (fresh : ∀ entry ∈ entries, entry.1 ∉ done) :
    ∃ done', Yields (nodes.foldlM (readEntry (fieldReader strict fields)) { value := held, taken := none, done })
      { value := last, taken := none, done := done' } := by
  induction gathers generalizing nodes done with
  | nil held =>
    cases nodes with
    | nil => exact ⟨done, yields_pure _⟩
    | cons node rest => cases holds
  | @cons key tree rest field held next last known first later ih =>
    obtain ⟨line, node, others, rfl, inner, each⟩ := exists_of_entriesHeldBy holds
    obtain ⟨new, distinct⟩ := List.nodup_cons.mp distinct
    obtain ⟨unread, unmet⟩ := List.forall_mem_cons.mp fresh
    have read : Yields ((fieldReader strict fields).read false key node held) next := by
      simp only [fieldReader, known]
      exact first node inner
    have apart : ∀ entry ∈ rest, entry.1 ∉ key :: done := by
      intro entry member
      refine List.not_mem_cons_of_ne_of_not_mem ?_ (unmet entry member)
      rintro rfl
      exact new (List.mem_map.mpr ⟨entry, member, rfl⟩)
    obtain ⟨done', whole⟩ := ih distinct each apart
    exact ⟨done', (yields_readEntry unread read).bind whole⟩

end Entries

/-- A record is read by its fields. -/
theorem reads_record {strict : Bool} {fields : List (Field σ)} {entries : List (String × Tree)} {held last : σ}
    (gathers : Gathers fields entries held last) (distinct : (entries.map Prod.fst).Nodup) :
    (Tree.record entries).Reads (readRecord strict fields) held last := by
  intro node holds
  obtain ⟨nodes, rfl, each⟩ := exists_of_record_heldBy holds
  have single := hasRepeatedKey_of_heldBy each distinct
  have unmerged : nodes.find? (·.1.isMergeKey) = none :=
    List.find?_eq_none.mpr fun entry member => by simp [isMergeKey_of_heldBy each entry member]
  obtain ⟨done, gathered⟩ := @yields_foldlM_readEntry _ _ _ nodes _ _ gathers strict distinct each [] (by simp)
  have direct (depth : Nat) :
      Yields (readEntries (fieldReader strict fields) nodes (depth + 1) none held) (last, none) := by
    rw [readEntries, single, if_neg Bool.false_ne_true]
    refine gathered.bind ?_
    rw [unmerged]
    exact yields_pure _
  have mapping : Yields (readMapping (fieldReader strict fields) nodes held) last := by
    intro surroundings progress deep clean
    obtain ⟨depth, spelled⟩ := Nat.exists_eq_add_one.mpr deep
    have split : readMapping (fieldReader strict fields) nodes held surroundings progress =
        (readEntries (fieldReader strict fields) nodes surroundings.depth none held >>= fun found => pure found.1)
          surroundings progress := rfl
    rw [split, spelled]
    exact (direct depth).bind (yields_pure last) surroundings progress deep clean
  unfold readRecord
  refine yields_visit rfl ?_
  exact mapping

/-! ### Documents -/

/-- A value that returns from what is written for it is read from there. -/
theorem readOnto_document {tree : Tree} {read : Node → σ → Reading σ} {held result : σ} (returns : tree.Returns)
    (reads : tree.Reads read held result) : readOnto read tree.document held = .ok result := by
  obtain ⟨document, composed, holds⟩ := returns
  have run (length : Nat) : document.run length (fun node => read node held) = .ok result := by
    obtain ⟨next, done, tidy⟩ := reads document.root holds
      ⟨document.anchored, (length + 2) * (length + 2)⟩ { visits := 1 } (by positivity) ⟨rfl, rfl, rfl⟩
    rw [Document.run, StateT.run, done, ok_bind]
    dsimp only
    rw [tidy.matched, if_neg Bool.false_ne_true]
    rfl
  have found : read? read tree.document held = .ok (some result) := by
    unfold read?
    generalize parse tree.document = parsed at composed
    subst composed
    dsimp only
    rw [run]
    rfl
  rw [readOnto, found]
  rfl

end Values

/-! ### Documents by their characters -/

/-- The start of a text that has the characters. -/
def Cursor.startOf (characters : List Char) : Cursor :=
  match characters with
  | '\ufeff' :: rest =>
    let (readable, cut) := readablePieces (pieceSize - 3) [] [] rest
    { rest := readable, bound := characters.length, cut }
  | _ =>
    let (readable, cut) := readablePieces pieceSize [] [] characters
    { rest := readable, bound := characters.length, cut }

/-- A text that has the characters as a document. -/
def parseCharacters (characters : List Char) : Option (Option Document) := do
  let (document?, state) ←
    (document (16 * characters.length + 64)).run { queue := { cursor := .startOf characters } }
  return document?.map fun document => { document with anchored := state.anchored }

theorem parse_eq (text : String) : parse text = parseCharacters text.toList := by
  have start : Cursor.start text = .startOf text.toList := by
    unfold Cursor.start Cursor.startOf
    rw [← String.length_toList]
    split <;> simp_all
  rw [parse, parseCharacters, start, String.length_toList]

theorem Tree.returns_of_toList {tree : Tree} {characters : List Char} (spelled : tree.document.toList = characters)
    (found : (parseCharacters characters).any (·.any fun document => tree.heldBy document.root) = true) :
    tree.Returns := by
  rw [← spelled, ← parse_eq] at found
  obtain ⟨parsed, composed, found⟩ := (Option.any_eq_true _ _).mp found
  obtain ⟨document, rfl, holds⟩ := (Option.any_eq_true _ _).mp found
  exact ⟨document, composed, holds⟩

end KernelForge.Yaml
