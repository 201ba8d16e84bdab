import KernelForge.Yaml.Visit

/-!
Reading the entries of a mapping one by one, and after them those of the mappings that are merged into it. What a
mapping says itself counts before what is merged, and of several merged mappings the first that has a key.
-/

namespace KernelForge.Yaml

/-- The name that a key stands for. One that denotes nothing is passed over. -/
def readKey (key : Node) : Reading (Option String) :=
  visit key fun
    | .scalar _ tag text => written? tag text
    | _ => mismatch none

/-- The failure of a collection among the keys of a mapping that another one is merged into. -/
def unhashable (kind : String) : Failure :=
  ⟨.abort, "runtime error: hash of unhashable type " ++ kind⟩

/-- Whether all keys of a mapping are texts. -/
def hasTextKeys (entries : List (Node × Node)) : Reading Bool :=
  entries.allM fun entry => do
    match ← meant entry.1 with
    | .scalar _ tag _ => return tag == "!!str" || tag == "!!merge"
    | _ => return false

/-- The name that a key stands for if it is a text, so that it is not taken from what is merged. -/
def textKey (key : Node) : Reading (Option String) :=
  visit key fun
    | .scalar _ tag text => do
      match ← denoted tag text with
      | .text name => return some name
      | _ => return none
    | .sequence .. => throw (unhashable "[]interface \x7b\x7d")
    | .mapping _ entries => do
      let key := if ← hasTextKeys entries then "string" else "interface \x7b\x7d"
      throw (unhashable ("map[" ++ key ++ "]interface \x7b\x7d"))
    | .alias .. => return none

/-- How the entries of a mapping are read into a value. -/
structure EntryReader (σ : Type) where
  /-- Whether a name can only be read once in a mapping. -/
  once : String → Bool
  /-- Reads the node of a name; `merged` tells whether the mapping is merged into another one. -/
  read : (merged : Bool) → String → Node → σ → Reading σ

/-- A value in the course of reading a mapping. -/
structure Gathered (σ : Type) where
  value : σ
  /-- The names that stand in the mappings before, when the mapping is merged into them. -/
  taken : Option (List String)
  /-- The names that were read from this mapping. -/
  done : List String := []

variable {σ : Type}

/-- Reads an entry of a mapping. -/
def readEntry (reader : EntryReader σ) (gathered : Gathered σ) (entry : Node × Node) : Reading (Gathered σ) := do
  if entry.1.isMergeKey then return gathered
  let some name ← readKey entry.1 | return gathered
  if (gathered.taken.getD []).contains name then return gathered
  let gathered := { gathered with taken := gathered.taken.map (name :: ·) }
  if reader.once name && gathered.done.contains name then mismatch gathered
  else
    let value ← reader.read gathered.taken.isSome name entry.2 gathered.value
    return { gathered with value, done := name :: gathered.done }

/-- The nodes of the mappings that the value of a merge key refers to. -/
def mergeSources : Node → List Node
  | .sequence _ items => items
  | node => [node]

/-- Reads a mapping onto a value. A repeated key makes all of it unreadable. -/
def readEntries (reader : EntryReader σ) (entries : List (Node × Node)) :
    (depth : Nat) → (taken : Option (List String)) → σ → Reading (σ × Option (List String))
  | 0, _, _ => throw malformed
  | depth + 1, taken, held => do
    if hasRepeatedKey entries then mismatch (held, taken)
    else
      let own ← entries.foldlM (readEntry reader) { value := held, taken }
      match entries.find? (·.1.isMergeKey) with
      | none => return (own.value, own.taken)
      | some (_, merge) =>
        let names ←
          match own.taken with
          | some names => pure names
          | none => entries.filterMapM (textKey ·.1)
        let (value, names) ← (mergeSources merge).foldlM (fun (value, names) source =>
          visit source fun
            | .mapping _ entries => readEntries reader entries depth names value
            | _ => throw malformed) (own.value, some names)
        return (value, own.taken.bind fun _ => names)

/-- Reads a mapping onto a value. -/
def readMapping (reader : EntryReader σ) (entries : List (Node × Node)) (held : σ) : Reading σ := do
  return (← readEntries reader entries (← read).depth none held).1

end KernelForge.Yaml
