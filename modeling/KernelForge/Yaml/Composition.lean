import KernelForge.Yaml.Node
import KernelForge.Yaml.TokenQueue
import KernelForge.Yaml.Value

/-!
The first document of a text. Its tokens are put together to nodes; what follows the document is only looked at as far
as it takes to see that the document is over.

The readers take a bound on the depth of their recursion. `parse` computes it from the length of the text, and no call
consumes it without taking a token or entering a node.
-/

namespace KernelForge.Yaml

/-- How far the reading of a document has come. -/
structure Composition where
  queue : TokenQueue
  /-- The handles of tags and what they stand for. -/
  handles : List (String × String) := []
  /-- The numbers of the nodes that names refer to; of several the first counts. -/
  names : List (String × Nat) := []
  anchored : List (Nat × Node) := []
  /-- How many aliases and anchors there were. -/
  count : Nat := 0

/-- A step of reading a document. -/
abbrev Composing := StateT Composition Option

/-- Runs a step of reading tokens. -/
def tokenizing {α : Type} (step : Tokenizing α) : Composing α := fun state => do
  let (value, queue) ← step.run state.queue
  return (value, { state with queue })

/-- The next token. -/
def nextToken : Composing Token :=
  return (← tokenizing peek).token

/-- Takes the next token. -/
def takeToken : Composing Unit :=
  tokenizing take

/-- A fresh number. -/
def freshNumber : Composing Nat :=
  modifyGet fun state => (state.count, { state with count := state.count + 1 })

/-- The handles that every document has. -/
def usualHandles : List (String × String) :=
  [("!", "!"), ("!!", "tag:yaml.org,2002:")]

/-- The short form of a tag. -/
def shortTag (tag : String) : String :=
  let usual := "tag:yaml.org,2002:"
  if tag.startsWith usual then "!!" ++ String.ofList (tag.toList.drop usual.length) else tag

/-- A tag with its handle replaced by what it stands for. -/
def expandTag (handle suffix : String) : Composing String := do
  if handle = "" then return suffix
  else
    let (_, expansion) ← ((← get).handles ++ usualHandles).find? (·.1 == handle)
    return expansion ++ suffix

/-- What stands in front of a node: its anchor and its tag, in any order and each at most once. -/
structure Properties where
  anchor : Option String := none
  tag : Option String := none

/-- Reads an anchor or a tag in front of a node, unless there was one. -/
def property (found : Properties) : Composing Properties := do
  match ← nextToken with
  | .anchor name =>
    if found.anchor.isSome then return found
    takeToken
    return { found with anchor := some name }
  | .tag handle suffix =>
    if found.tag.isSome then return found
    takeToken
    return { found with tag := some (← expandTag handle suffix) }
  | _ => return found

/-- Reads what stands in front of a node. -/
def properties : Composing Properties := do
  property (← property {})

/-- The tag of a scalar: the one that it has, or else the one that its text tells. -/
def scalarTag (tag? : Option String) (plain : Bool) (text : String) : String :=
  match tag? with
  | some tag => if tag = "!" then untagged else shortTag tag
  | none => untagged
where
  /-- The tag of a scalar without one. -/
  untagged : String :=
    if !plain then "!!str" else if text = "<<" then "!!merge" else (resolve true text).tag

/-- The tag of a collection: the one that it has, or else the usual one. -/
def collectionTag (tag? : Option String) (usual : String) : String :=
  match tag? with
  | some tag => if tag = "!" then usual else shortTag tag
  | none => usual

/-- The node of nothing. -/
def nothing : Node :=
  .scalar 0 "!!null" ""

/-- A node that an alias refers to. -/
def aliasNode (name : String) : Composing Node := do
  let (_, target) ← (← get).names.find? (·.1 == name)
  return .alias (← freshNumber) name target

/-- Reads a node, which is known by its anchor while it is read. -/
def anchoredBy (anchor? : Option String) (read : Composing Node) : Composing Node := do
  match anchor? with
  | none => read
  | some name =>
    let number ← freshNumber
    modify fun state => { state with names := (name, number) :: state.names }
    let node ← read
    modify fun state => { state with anchored := (number, node) :: state.anchored }
    return node

/-- Reads a node if the next token starts one, and gives nothing if it is one of those that follow a node. -/
def orNothing (ends : List Token) (read : Composing Node) : Composing Node := do
  if ends.contains (← nextToken) then return nothing else read

mutual

/-- Reads a node. Collections in block context are only read when `block` says so, and a sequence without indentation
    of its own only where `indentless` says so. -/
def node (block indentless : Bool) : Nat → Composing Node
  | 0 => failure
  | fuel + 1 => do
    let line := (← tokenizing peek).line + 1
    match ← nextToken with
    | .alias name =>
      takeToken
      aliasNode name
    | _ =>
      let found ← properties
      let sequence := Node.sequence (collectionTag found.tag "!!seq")
      let mapping := Node.mapping (collectionTag found.tag "!!map")
      anchoredBy found.anchor do
        match ← nextToken with
        | .scalar plain text =>
          takeToken
          return .scalar line (scalarTag found.tag plain text) text
        | .flowSequence =>
          takeToken
          return sequence (← flowItems true fuel)
        | .flowMapping =>
          takeToken
          return mapping (← flowEntries true fuel)
        | token =>
          if indentless && token = .blockEntry then return sequence (← indentlessItems fuel)
          else if block && token = .blockSequence then
            takeToken
            return sequence (← blockItems fuel)
          else if block && token = .blockMapping then
            takeToken
            return mapping (← blockEntries fuel)
          else if found.anchor.isSome || found.tag.isSome then
            return .scalar line (scalarTag found.tag true "") ""
          else failure

/-- Reads the items of a sequence in block context. -/
def blockItems : Nat → Composing (List Node)
  | 0 => failure
  | fuel + 1 => do
    match ← nextToken with
    | .blockEntry =>
      takeToken
      let item ← orNothing [.blockEntry, .blockEnd] (node true false fuel)
      return item :: (← blockItems fuel)
    | .blockEnd =>
      takeToken
      return []
    | _ => failure

/-- Reads the items of a sequence that is not indented. -/
def indentlessItems : Nat → Composing (List Node)
  | 0 => failure
  | fuel + 1 => do
    match ← nextToken with
    | .blockEntry =>
      takeToken
      let item ← orNothing [.blockEntry, .key, .value, .blockEnd] (node true false fuel)
      return item :: (← indentlessItems fuel)
    | _ => return []

/-- Reads the entries of a mapping in block context. -/
def blockEntries : Nat → Composing (List (Node × Node))
  | 0 => failure
  | fuel + 1 => do
    match ← nextToken with
    | .key =>
      takeToken
      let key ← orNothing [.key, .value, .blockEnd] (node true true fuel)
      let value ←
        match ← nextToken with
        | .value =>
          takeToken
          orNothing [.key, .value, .blockEnd] (node true true fuel)
        | _ => pure nothing
      return (key, value) :: (← blockEntries fuel)
    | .blockEnd =>
      takeToken
      return []
    | _ => failure

/-- Reads the value of an entry of a flow collection, which ends with a token. -/
def flowValue (end_ : Token) : Nat → Composing Node
  | 0 => failure
  | fuel + 1 => do
    match ← nextToken with
    | .value =>
      takeToken
      orNothing [.flowEntry, end_] (node false false fuel)
    | _ => return nothing

/-- Reads the items of a flow sequence. A key and a value are a mapping of their own; where the key is missing, the
    token in its place is passed over. -/
def flowItems (first : Bool) : Nat → Composing (List Node)
  | 0 => failure
  | fuel + 1 => do
    if !first && (← nextToken) ≠ .flowSequenceEnd then
      if (← nextToken) ≠ .flowEntry then failure
      takeToken
    match ← nextToken with
    | .flowSequenceEnd =>
      takeToken
      return []
    | .key =>
      takeToken
      let missing := [Token.value, .flowEntry, .flowSequenceEnd].contains (← nextToken)
      if missing then takeToken
      let key ← if missing then pure nothing else node false false fuel
      let value ← flowValue .flowSequenceEnd fuel
      return .mapping "!!map" [(key, value)] :: (← flowItems false fuel)
    | _ =>
      let item ← node false false fuel
      return item :: (← flowItems false fuel)

/-- Reads the entries of a flow mapping. -/
def flowEntries (first : Bool) : Nat → Composing (List (Node × Node))
  | 0 => failure
  | fuel + 1 => do
    if !first && (← nextToken) ≠ .flowMappingEnd then
      if (← nextToken) ≠ .flowEntry then failure
      takeToken
    match ← nextToken with
    | .flowMappingEnd =>
      takeToken
      return []
    | .key =>
      takeToken
      let key ← orNothing [.value, .flowEntry, .flowMappingEnd] (node false false fuel)
      let value ← flowValue .flowMappingEnd fuel
      return (key, value) :: (← flowEntries false fuel)
    | _ =>
      let key ← node false false fuel
      return (key, nothing) :: (← flowEntries false fuel)

end

/-- Reads directives. There may be one version, which has to be 1.1, and one expansion for every handle. -/
def directives : (fuel : Nat) → (versioned : Bool) → Composing Unit
  | 0, _ => failure
  | fuel + 1, versioned => do
    match ← nextToken with
    | .version major minor =>
      if versioned || major ≠ 1 || minor ≠ 1 then failure
      takeToken
      directives fuel true
    | .tagHandle handle expansion =>
      if (← get).handles.any (·.1 == handle) then failure
      modify fun state => { state with handles := state.handles ++ [(handle, expansion)] }
      takeToken
      directives fuel versioned
    | _ => return ()

/-- Reads the first document of a text, if there is one. -/
def document (fuel : Nat) : Composing (Option Document) := do
  let root? : Option Node ←
    match ← nextToken with
    | .streamEnd => pure none
    | .version .. | .tagHandle .. | .documentStart =>
      directives fuel false
      if (← nextToken) ≠ .documentStart then failure
      takeToken
      match ← nextToken with
      | .version .. | .tagHandle .. | .documentStart | .documentEnd | .streamEnd => pure (some nothing)
      | _ => some <$> node true false fuel
    | _ => some <$> node true false fuel
  let _ ← nextToken
  return root?.map fun root => ⟨root, []⟩

/-- A text as a document: `none` if it is malformed, `some none` if there is no document in it. -/
def parse (text : String) : Option (Option Document) := do
  let (document?, state) ← (document (16 * text.length + 64)).run { queue := { cursor := .start text } }
  return document?.map fun document => { document with anchored := state.anchored }

end KernelForge.Yaml
