import KernelForge.Document
import KernelForge.Json.Lexeme
import KernelForge.Text.Decimal

/-!
Reading typed values out of JSON text, byte by byte. What is wanted decides how the next bytes are read, and a value
of another type ends the reading. `null` leaves what was there, except that it clears a value with a name of its own.
-/

namespace KernelForge.Json

/-- The failure of a document that does not have the form it should have. -/
def malformed : Failure := ⟨.malformed, "json: malformed document"⟩

/-- What is left of a text, and how many records around it are open. -/
structure Source where
  rest : List UInt8
  depth : Nat := 0

/-- A reading of a text. -/
abbrev Reading := StateT Source (Except Failure)

/-- Goes on behind a piece that was found; without one the text is malformed. -/
def found {α : Type} (piece? : Option (α × List UInt8)) : Reading α := fun source =>
  match piece? with
  | some (piece, rest) => .ok (piece, { source with rest })
  | none => .error malformed

/-- The next byte that is not blank. -/
def nextByte : Reading UInt8 := fun source =>
  match skipBlanks source.rest with
  | byte :: rest => .ok (byte, { source with rest })
  | [] => .error malformed

/-- What is left of the text. -/
def remaining : Reading (List UInt8) :=
  return (← get).rest

/-- The rest of a word whose first letter was read; the word stands for a value. -/
def word {α : Type} (mode : Mode) (letters : String) (value : α) : Reading α := do
  found ((afterWord? mode letters (← remaining)).map (value, ·))

/-- Reads a truth value. -/
def readBoolean (mode : Mode) (held : Bool) : Reading Bool := do
  let byte ← nextByte
  if byte = ascii 't' then word mode "rue" true
  else if byte = ascii 'f' then word mode "alse" false
  else if byte = ascii 'n' then word mode "ull" held
  else throw malformed

/-- The digits at the front of what is left. -/
def digits : Reading (List UInt8) := do
  let rest ← remaining
  found (some (rest.takeWhile isDigit, rest.dropWhile isDigit))

/-- The value of decimal digits. -/
def digitsValue (digits : List UInt8) : Nat :=
  Text.digitsValue (digits.map asciiChar)

/-- Reads an unsigned integer below a bound: a zero alone, or up to twenty digits whose value is taken in 64 bits. -/
def readUnsigned (mode : Mode) (bound held : Nat) : Reading Nat := do
  let byte ← nextByte
  if byte = ascii 'n' then word mode "ull" held
  else if byte = ascii '0' then return 0
  else if isDigit byte then
    let literal := byte :: (← digits)
    let value := digitsValue literal % UInt64.size
    if literal.length ≤ 20 && value < bound then return value else throw malformed
  else throw malformed

/-- Reads a signed integer of 64 bits: a zero alone, or up to nineteen digits whose value is taken in 64 bits. After a
    minus there may be any digits; there may even be none, but not in a request. -/
def readSigned (mode : Mode) (held : Int64) : Reading Int64 := do
  let byte ← nextByte
  if byte = ascii 'n' then word mode "ull" held
  else if byte = ascii '0' then return 0
  else if byte = ascii '-' then
    let literal ← digits
    if 19 < literal.length || (literal.isEmpty && mode = .request) then throw malformed
    else return Int64.ofInt (-(digitsValue literal : Int))
  else if isDigit byte then
    let literal := byte :: (← digits)
    if literal.length ≤ 19 then return Int64.ofNat (digitsValue literal) else throw malformed
  else throw malformed

/-- Reads a single precision number, rounded from the double that the numeral denotes. -/
def readSingle (mode : Mode) (held : Float32) : Reading Float32 := do
  let byte ← nextByte
  if byte = ascii 'n' then word mode "ull" held
  else if byte = ascii '-' || isDigit byte then
    let rest ← remaining
    let literal := byte :: rest.takeWhile isNumeric
    match Text.double? (literal.map asciiChar) with
    | some value => found (some (value.toFloat32, rest.dropWhile isNumeric))
    | none => throw malformed
  else throw malformed

/-- Reads a text. -/
def readText (mode : Mode) (held : String) : Reading String := do
  let byte ← nextByte
  if byte = ascii 'n' then word mode "ull" held
  else if byte = quoteByte then
    let parts ← found (looseParts? (← remaining))
    return Text.ofBytes (partBytes parts)
  else throw malformed

/-- The next value as it is written. -/
def readRaw (mode : Mode) : Reading (List UInt8) := do
  let source ← get
  found (rawValue? mode source.depth source.rest)

/-- Reads a value with a name of its own. A string is its name, and so is a word or a numeral with a minus as it is
    written; `null` clears the value. -/
def readNamed {σ α : Type} (mode : Mode) (name : Named σ α) (record : σ) : Reading σ := do
  let raw ← readRaw mode
  if raw = Text.bytesOf "null" then return name.clear record
  else if raw.head?.any fun byte => byte = ascii '[' || byte = 0x7B || isDigit byte then throw malformed
  else
    match name.parse (Text.ofBytes (unquoted raw)) with
    | .ok value => return name.put record value
    | .error failure => throw failure

/-- Passes over the next byte, which has to be the given one. -/
def expect (byte : UInt8) : Reading Unit := do
  if (← nextByte) ≠ byte then throw malformed

/-- Reads members up to the end of an object, each with `read` from its key on. The fuel bounds their number. -/
def readMembers {σ : Type} (read : σ → Reading σ) : Nat → σ → Reading σ
  | 0, _ => throw malformed
  | fuel + 1, held => do
    let held ← read held
    let byte ← nextByte
    if byte = 0x7D then return held
    else if byte = ascii ',' then readMembers read fuel held
    else throw malformed

/-- Reads the inside of an object after its brace. -/
def readInside {σ : Type} (read : σ → Reading σ) (held : σ) : Reading σ := do
  let rest ← remaining
  match skipBlanks rest with
  | 0x7D :: after => found (some (held, after))
  | _ => readMembers read rest.length held

/-- Reads a member of a record. -/
def readMember {σ : Type} (mode : Mode) (fields : List (Field Unit Reading σ)) (held : σ) : Reading σ := do
  let key? ← found (memberKey? mode (fields.map (·.key)) (← remaining))
  expect (ascii ':')
  match key?.bind fun key => fields.find? (·.key == key) with
  | some field => field.read () held
  | none =>
    if mode = .request then throw malformed
    else
      let _ ← readRaw mode
      return held

/-- Reads a record. An unknown key is passed over in a document and refused in a request. -/
def readRecord {σ : Type} (mode : Mode) (fields : List (Field Unit Reading σ)) (held : σ) : Reading σ := do
  let byte ← nextByte
  if byte = ascii 'n' then word mode "ull" held
  else if byte = 0x7B then
    modify fun source => { source with depth := source.depth + 1 }
    let record ← readInside (readMember mode fields) held
    modify fun source => { source with depth := source.depth - 1 }
    return record
  else throw malformed

/-- Reads a member of a dictionary. -/
def readEntry {α : Type} (parse : String → Except Failure α) (absent : α) (held : List (String × α)) :
    Reading (List (String × α)) := do
  let key ← readText .document ""
  expect (ascii ':')
  let value ← readNamed .document ⟨parse, fun _ value => value, fun _ => absent⟩ absent
  return held ++ [(key, value)]

/-- Runs a reading on the whole of a text. -/
def Reading.whole {α : Type} (reading : Reading α) (bytes : List UInt8) : Except Failure α :=
  match reading.run { rest := bytes } with
  | .ok (value, source) => if atEnd (skipBlanks source.rest) then .ok value else .error malformed
  | .error failure => .error failure

/-- Reads named values by key. They are a document of their own. -/
def readDictionary {α : Type} (mode : Mode) (parse : String → Except Failure α) (absent : α) :
    Reading (List (String × α)) := do
  let raw ← readRaw mode
  let entries : Reading (List (String × α)) := do
    let byte ← nextByte
    if byte = ascii 'n' then word .document "ull" []
    else if byte = 0x7B then
      modify fun source => { source with depth := source.depth + 1 }
      readInside (readEntry parse absent) []
    else throw malformed
  match entries.whole raw with
  | .ok entries => return entries
  | .error failure => throw failure

/-- The readers of this format. -/
def format (mode : Mode) : Format Unit Reading where
  boolean _ := readBoolean mode
  uint16 _ held := do return UInt16.ofNat (← readUnsigned mode UInt16.size held.toNat)
  uint32 _ held := do return UInt32.ofNat (← readUnsigned mode UInt32.size held.toNat)
  int64 _ := readSigned mode
  single _ := readSingle mode
  text _ := readText mode
  named name _ := readNamed mode name
  dictionary parse absent _ := readDictionary mode parse absent
  record fields _ := readRecord mode fields

/-- Reads the bytes of a document onto a value. -/
def readBytesOnto {α : Type} (read : Unit → α → Reading α) (bytes : List UInt8) (held : α) : Except Failure α :=
  (read () held).whole bytes

/-- Reads a document onto a value. -/
def readOnto {α : Type} (read : Unit → α → Reading α) (text : String) (held : α) : Except Failure α :=
  readBytesOnto read (Text.bytesOf text) held

/-- Reads the first value of a request onto a value. One comma or colon may stand in front of it. -/
def readFirstOnto {α : Type} (read : Unit → α → Reading α) (text : String) (held : α) : Except Failure α :=
  let bytes := skipBlanks (Text.bytesOf text)
  let bytes := if bytes.head?.any fun byte => byte = ascii ',' || byte = ascii ':' then bytes.drop 1 else bytes
  match (read () held).run { rest := bytes } with
  | .ok (value, _) => .ok value
  | .error failure => .error failure

end KernelForge.Json
