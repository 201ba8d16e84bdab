import KernelForge.Yaml.Token

/-!
The tokens of a document in their order, read only as far as they are wanted. Some tokens are found late: that a
scalar was the key of a mapping shows at the colon behind it, and then the tokens in front of it are put into the queue.
So a token is only given out when nothing can come in front of it any more, and when two more are known.
-/

namespace KernelForge.Yaml

/-- Something that may turn out to be the key of a mapping: it stands on one line, and its colon follows within 1024
    characters. -/
structure PossibleKey where
  possible : Bool := false
  /-- Whether nothing else than a key can stand here. -/
  required : Bool := false
  /-- The number of the token that it starts with. -/
  token : Nat := 0
  index : Nat := 0
  line : Nat := 0
  column : Nat := 0
  deriving DecidableEq, Repr

/-- How far the reading of tokens has come. -/
structure TokenQueue where
  cursor : Cursor
  /-- The tokens that are known and not given out. -/
  tokens : List PlacedToken := []
  /-- How many tokens were given out. -/
  taken : Nat := 0
  /-- The column of the innermost collection in block context. -/
  indent : Int := -1
  /-- The columns of the collections around it. -/
  indents : List Int := []
  /-- How many flow collections are open. -/
  flowLevel : Nat := 0
  /-- Whether a key can start here. -/
  keyAllowed : Bool := true
  /-- The last possible key of every open flow collection, innermost first, and of the block context. -/
  keys : List PossibleKey := [{}]
  /-- By the number of a token, the flow level of the possible key that it starts; the last token is first. -/
  keyLevels : List (Nat × Nat) := []

/-- A step of reading tokens. -/
abbrev Tokenizing := StateT TokenQueue Option

namespace TokenQueue

/-- The deepest nesting of collections. -/
def deepest : Nat := 10000

/-- The number of the next token. -/
def nextNumber (queue : TokenQueue) : Nat :=
  queue.taken + queue.tokens.length

/-- Whether the collections are those of the block context. -/
def inBlock (queue : TokenQueue) : Bool :=
  queue.flowLevel == 0

/-- The last possible key of the innermost collection. -/
def lastKey (queue : TokenQueue) : PossibleKey :=
  queue.keys.headD {}

/-- The queue with another last possible key. -/
def setLastKey (queue : TokenQueue) (key : PossibleKey) : TokenQueue :=
  { queue with keys := key :: queue.keys.drop 1 }

/-- The queue in which a token starts no possible key. -/
def dropKeyLevel (queue : TokenQueue) (token : Nat) : TokenQueue :=
  { queue with keyLevels := queue.keyLevels.filter (·.1 != token) }

/-- Whether a possible key came to nothing: the line is over, or there are too many characters. -/
def isStale (queue : TokenQueue) (key : PossibleKey) : Bool :=
  key.line < queue.cursor.line || key.index + 1024 < queue.cursor.index

end TokenQueue

open TokenQueue

/-- Goes on at another place. -/
def moveTo (cursor : Cursor) : Tokenizing Unit :=
  modify fun queue => { queue with cursor }

/-- Puts a token at the end of the queue. -/
def append (token : Token) (line : Nat) : Tokenizing Unit :=
  modify fun queue => { queue with tokens := queue.tokens ++ [⟨token, line⟩] }

/-- Puts a token in front of the one with a number. -/
def insertAt (number : Nat) (token : Token) (line : Nat) : Tokenizing Unit :=
  modify fun queue =>
    let place := number - queue.taken
    { queue with tokens := queue.tokens.take place ++ ⟨token, line⟩ :: queue.tokens.drop place }

/-- Says whether a key can start here. -/
def allowKey (allowed : Bool) : Tokenizing Unit :=
  modify fun queue => { queue with keyAllowed := allowed }

/-- Gives the last possible key up; it fails if there had to be one. -/
def dropKey : Tokenizing Unit := do
  let queue ← get
  let key := queue.lastKey
  if !key.possible then return
  else if key.required then failure
  else set ((queue.setLastKey { key with possible := false }).dropKeyLevel key.token)

/-- Remembers that a key may start here. -/
def rememberKey : Tokenizing Unit := do
  if (← get).keyAllowed then
    dropKey
    let queue ← get
    let cursor := queue.cursor
    let key : PossibleKey :=
      { possible := true
        required := queue.inBlock && queue.indent == (cursor.column : Int)
        token := queue.nextNumber
        index := cursor.index
        line := cursor.line
        column := cursor.column }
    set { queue.setLastKey key with keyLevels := (key.token, queue.flowLevel) :: queue.keyLevels }

/-- Whether the last possible key of a flow level can still be one. It fails if it cannot and there had to be one. -/
def keyHolds (level : Nat) : Tokenizing Bool := do
  let queue ← get
  let place := queue.flowLevel - level
  let key := queue.keys.getD place {}
  if !key.possible then return false
  else if !queue.isStale key then return true
  else if key.required then failure
  else
    set { queue with keys := queue.keys.set place { key with possible := false } }
    return false

/-- Opens a collection in block context that is indented to a column, unless one is open there. Its token goes in
    front of the one with a number, or to the end. -/
def openBlock (column : Nat) (number? : Option Nat) (token : Token) (line : Nat) : Tokenizing Unit := do
  let queue ← get
  if queue.inBlock && queue.indent < (column : Int) then
    if deepest ≤ queue.indents.length then failure
    set { queue with indent := (column : Int), indents := queue.indent :: queue.indents }
    match number? with
    | some number => insertAt number token line
    | none => append token line

/-- Closes the collections in block context that are indented beyond a column. -/
def closeBlocks (column : Int) : Tokenizing Unit :=
  modify fun queue =>
    if queue.inBlock then
      let open_ := queue.indent :: queue.indents
      let kept := open_.dropWhile (column < ·)
      let ends := List.replicate (open_.length - kept.length) ⟨.blockEnd, queue.cursor.line⟩
      { queue with indent := kept.headD (-1), indents := kept.drop 1, tokens := queue.tokens ++ ends }
    else queue

/-- Ends everything that is open in block context. -/
def endBlocks : Tokenizing Unit := do
  closeBlocks (-1)
  dropKey
  allowKey false

/-- Reads a token of a number of characters. -/
def mark (token : Token) (length : Nat) : Tokenizing Unit := do
  let cursor := (← get).cursor
  moveTo (cursor.advance length)
  append token cursor.line

/-- Opens a flow collection. -/
def openFlow (token : Token) : Tokenizing Unit := do
  rememberKey
  modify fun queue =>
    { queue with
      keys := { token := queue.nextNumber } :: queue.keys
      flowLevel := queue.flowLevel + 1 }
  if deepest < (← get).flowLevel then failure
  allowKey true
  mark token 1

/-- Closes a flow collection. -/
def closeFlow (token : Token) : Tokenizing Unit := do
  dropKey
  modify fun queue =>
    if queue.inBlock then queue
    else
      let queue := queue.dropKeyLevel queue.lastKey.token
      { queue with keys := queue.keys.drop 1, flowLevel := queue.flowLevel - 1 }
  allowKey false
  mark token 1

/-- Separates the entries of a flow collection. -/
def separateFlow : Tokenizing Unit := do
  dropKey
  allowKey true
  mark .flowEntry 1

/-- Starts an item of a sequence in block context. -/
def startItem : Tokenizing Unit := do
  let queue ← get
  if queue.inBlock then
    if !queue.keyAllowed then failure
    openBlock queue.cursor.column none .blockSequence queue.cursor.line
  dropKey
  allowKey true
  mark .blockEntry 1

/-- Starts a key that is marked as one. -/
def startKey : Tokenizing Unit := do
  let queue ← get
  if queue.inBlock then
    if !queue.keyAllowed then failure
    openBlock queue.cursor.column none .blockMapping queue.cursor.line
  dropKey
  allowKey queue.inBlock
  mark .key 1

/-- Starts a value. What stands in front of it turns out to be a key, unless one is marked. -/
def startValue : Tokenizing Unit := do
  let level := (← get).flowLevel
  if ← keyHolds level then
    let queue ← get
    let key := queue.lastKey
    insertAt key.token .key key.line
    openBlock key.column (some key.token) .blockMapping key.line
    modify fun queue => (queue.setLastKey { key with possible := false }).dropKeyLevel key.token
    allowKey false
  else
    let queue ← get
    if queue.inBlock then
      if !queue.keyAllowed then failure
      openBlock queue.cursor.column none .blockMapping queue.cursor.line
    allowKey queue.inBlock
  mark .value 1

/-- Reads a token that may start a key. -/
def keyable (read : Cursor → Option (Token × Cursor)) : Tokenizing Unit := do
  rememberKey
  allowKey false
  let cursor := (← get).cursor
  let (token, after) ← read cursor
  moveTo after
  append token cursor.line

/-- Reads a plain scalar. -/
def plainToken : Tokenizing Unit := do
  rememberKey
  allowKey false
  let queue ← get
  let (text, after, lineEnded) ← plainScalar (!queue.inBlock) (queue.indent + 1) queue.cursor
  moveTo after
  append (.scalar true (String.ofList text)) queue.cursor.line
  if lineEnded then allowKey true

/-- Reads a block of lines. -/
def blockToken (literal : Bool) : Tokenizing Unit := do
  dropKey
  allowKey true
  let queue ← get
  let (text, after) ← blockScalar literal queue.indent queue.cursor
  moveTo after
  append (.scalar false (String.ofList text)) queue.cursor.line

/-- How far a comment is looked for. -/
def commentReach : Nat := 512

/-- The place after a comment and after those of the following lines, when only blanks and ends of lines stand between
    them. The fuel bounds their number. -/
def pastComments : Nat → Cursor → Cursor
  | 0, cursor => cursor
  | fuel + 1, cursor =>
    let ended := cursor.past (!isBreak ·)
    let gap := (ended.rest.drop 1).takeWhile fun character =>
      isBlank character || character == '\n' || character == '\r'
    let next := (ended.rest.drop (1 + gap.length)).head?
    if ended.rest.head?.any (fun character => character == '\n' || character == '\r') && next == some '#' &&
        1 + gap.length < commentReach then
      pastComments fuel ended.afterGap
    else ended

/-- The place of the next token: behind blanks, comments and ends of lines. In block context a tab is only passed over
    where no key can start. Gives also whether a key can start there. The fuel bounds the number of lines. -/
def gapTo (inBlock : Bool) : (fuel : Nat) → (keyAllowed : Bool) → Cursor → Option (Cursor × Bool)
  | 0, _, _ => none
  | fuel + 1, keyAllowed, cursor => do
    cursor.require 1
    let cursor := if cursor.column == 0 && cursor.isAt '\ufeff' then cursor.step else cursor
    let cursor := cursor.past fun character => character == ' ' || (character == '\t' && (!inBlock || !keyAllowed))
    let cursor := if cursor.isAt '#' then pastComments cursor.bound cursor else cursor
    cursor.require 2
    if cursor.rest.head?.any isBreak then gapTo inBlock fuel (keyAllowed || inBlock) cursor.nextLine
    else return (cursor, keyAllowed)

/-- The place after a comment on the line of a token. -/
def pastLineComment (cursor : Cursor) : Cursor :=
  let blanks := (cursor.rest.takeWhile isBlank).length
  if !cursor.fresh && blanks < commentReach && (cursor.rest.drop blanks).head? == some '#' then
    cursor.past (!isBreak ·)
  else cursor

/-- Whether a plain scalar can start. -/
def startsPlain (inBlock : Bool) : List Char → Bool
  | [] => false
  | character :: rest =>
    if isGap character then false
    else if character == '-' then !rest.head?.any isBlank
    else if character == '?' || character == ':' then inBlock && !endsWord rest
    else !isIndicator character

/-- Reads the token that starts with the next character. -/
def readToken : Tokenizing Unit := do
  let queue ← get
  let cursor := queue.cursor
  let rest := cursor.rest.drop 1
  match cursor.rest.head? with
  | some '[' => openFlow .flowSequence
  | some '\x7b' => openFlow .flowMapping
  | some ']' => closeFlow .flowSequenceEnd
  | some '\x7d' => closeFlow .flowMappingEnd
  | some ',' => separateFlow
  | some '*' => keyable fun cursor => (anchorName cursor).map fun (name, after) => (.alias name, after)
  | some '&' => keyable fun cursor => (anchorName cursor).map fun (name, after) => (.anchor name, after)
  | some '!' => keyable tagToken
  | some '\'' => keyable (quoted true)
  | some '"' => keyable (quoted false)
  | some character =>
    if character == '-' && endsWord rest then startItem
    else if character == '?' && (!queue.inBlock || endsWord rest) then startKey
    else if character == ':' && (!queue.inBlock || endsWord rest) then startValue
    else if character == '|' && queue.inBlock then blockToken true
    else if character == '>' && queue.inBlock then blockToken false
    else if startsPlain queue.inBlock cursor.rest then plainToken
    else failure
  | none => failure
where
  /-- A scalar between quotes as a token. -/
  quoted (single : Bool) (cursor : Cursor) : Option (Token × Cursor) :=
    (quotedScalar single cursor).map fun (text, after) => (.scalar false (String.ofList text), after)

/-- Reads tokens up to the next one in the text. -/
def fetch : Tokenizing Unit := do
  let queue ← get
  let (cursor, keyAllowed) ← gapTo queue.inBlock (queue.cursor.bound + 1) queue.keyAllowed queue.cursor
  set { queue with cursor, keyAllowed }
  closeBlocks cursor.column
  cursor.require 4
  if cursor.rest.isEmpty then
    moveTo cursor.endLine
    endBlocks
    append .streamEnd cursor.line
  else if cursor.column == 0 && cursor.isAt '%' then
    endBlocks
    let (token, after) ← directiveToken cursor
    moveTo after
    append token cursor.line
  else if cursor.atMarker '-' then
    endBlocks
    mark .documentStart 3
  else if cursor.atMarker '.' then
    endBlocks
    mark .documentEnd 3
  else
    readToken
    let queue ← get
    if queue.tokens.getLast?.map (·.token) != some .blockEntry then
      moveTo (pastLineComment queue.cursor)
      queue.cursor.require 1

/-- Reads tokens until the first one of the queue can be given out. The fuel bounds their number. -/
def fetchEnough : Nat → Tokenizing Unit
  | 0 => failure
  | fuel + 1 => do
    let queue ← get
    let more ←
      if queue.tokens.length ≤ 2 then pure true
      else
        match queue.keyLevels.find? (·.1 == queue.taken) with
        | some (_, level) => keyHolds level
        | none => pure false
    if more then
      fetch
      fetchEnough fuel

/-- The next token. -/
def peek : Tokenizing PlacedToken := do
  fetchEnough ((← get).cursor.bound + 4)
  match (← get).tokens with
  | token :: _ => return token
  | [] => failure

/-- Takes the next token out of the queue. -/
def take : Tokenizing Unit :=
  modify fun queue =>
    { queue with
      tokens := queue.tokens.drop 1
      taken := queue.taken + 1
      keyLevels := queue.keyLevels.takeWhile (queue.taken < ·.1) }

end KernelForge.Yaml
