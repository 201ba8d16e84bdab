import KernelForge.Failure
import KernelForge.Yaml.Composition

/-!
Walking through a document. What an alias refers to is read in its place, which can make a short document very long.
Therefore the nodes that are visited are counted, and a reading that has to do with little else than aliases fails. A
value of the wrong type is noted and reading goes on; everything else that is wrong stops it at once.
-/

namespace KernelForge.Yaml

/-- How far a reading has come. -/
structure Progress where
  /-- Whether something of the wrong type was met. -/
  mismatched : Bool := false
  visits : Nat := 0
  /-- How many of the visits were on behalf of aliases. -/
  aliasVisits : Nat := 0
  /-- The aliases that are being read. -/
  active : List Nat := []

/-- What a reading can refer to: the nodes with an anchor, and a bound on the depth of merges. -/
structure Surroundings where
  anchored : List (Nat × Node)
  depth : Nat

/-- A reading. -/
abbrev Reading := ReaderT Surroundings (StateT Progress (Except Failure))

/-- The failure of a document that is not in the format. -/
def malformed : Failure := ⟨.malformed, "yaml: malformed document"⟩

/-- Notes a value of the wrong type. -/
def mismatch {α : Type} (held : α) : Reading α := do
  modify fun progress => { progress with mismatched := true }
  return held

/-- Whether too many of the visits were on behalf of aliases: in a document of up to 400000 visits more than 99 of a
    hundred, in one of 4000000 visits and more than 10 of them, and in between proportionally. -/
def Progress.isExcessive (progress : Progress) : Bool :=
  let visits := progress.visits
  let allowed :=
    if visits ≤ 400000 then 99 * 3600000
    else if visits ≥ 4000000 then 10 * 3600000
    else 99 * 3600000 - 89 * (visits - 400000)
  progress.aliasVisits > 100 && visits > 1000 && progress.aliasVisits * 360000000 > visits * allowed

/-- The progress with one more visit. -/
def Progress.visited (progress : Progress) : Progress :=
  { progress with
    visits := progress.visits + 1
    aliasVisits := if progress.active.isEmpty then progress.aliasVisits else progress.aliasVisits + 1 }

/-- Counts a visit. -/
def countVisit : Reading Unit := do
  modify Progress.visited
  if (← get).isExcessive then throw malformed

/-- The node that a node stands for: the one that an alias refers to, and otherwise itself. -/
def meant (node : Node) : Reading Node := do
  match node with
  | .alias _ _ number =>
    match (← read).anchored.find? (·.1 == number) with
    | some (_, target) => return target
    | none => throw malformed
  | _ => return node

/-- Visits a node and reads what it stands for. An alias inside of what it refers to is refused. -/
def visit {α : Type} (node : Node) (readNode : Node → Reading α) : Reading α := do
  countVisit
  match node with
  | .alias number _ _ =>
    if (← get).active.contains number then throw malformed
    modify fun progress => { progress with active := number :: progress.active }
    countVisit
    let value ← readNode (← meant node)
    modify fun progress => { progress with active := progress.active.drop 1 }
    return value
  | _ => readNode node

/-- Does a reading apart from what was read before. Something of the wrong type in it is a failure at once. -/
def apart {α : Type} (reading : Reading α) : Reading α := fun surroundings => do
  let (value, progress) ← (reading surroundings).run {}
  if progress.mismatched then throw malformed else return value

/-- What a scalar denotes, which its tag has to allow. -/
def denoted (tag text : String) : Reading Value :=
  match valueWithTag? tag text with
  | some value => return value
  | none => throw malformed

/-- A scalar as it is written, except that encoded bytes are decoded; `none` if it denotes nothing. -/
def written? (tag text : String) : Reading (Option String) := do
  match ← denoted tag text with
  | .null => return none
  | .text text => return some text
  | _ => return some text

/-- Runs a reading of a document that is part of a text with a length. -/
def Document.run {α : Type} (document : Document) (length : Nat) (reading : Node → Reading α) : Except Failure α := do
  let (value, progress) ←
    (reading document.root ⟨document.anchored, (length + 2) * (length + 2)⟩).run { visits := 1 }
  if progress.mismatched then throw malformed else return value

end KernelForge.Yaml
