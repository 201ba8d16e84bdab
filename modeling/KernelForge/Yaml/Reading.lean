import KernelForge.Document
import KernelForge.Yaml.Mapping

/-!
Reading typed values out of a document. Each reader takes a node and the value held so far, and gives the
value after it: nothing in the document leaves what was there. A value of the wrong type is noted and
reading goes on; a name that a type refuses stops it at once with the failure of that type.
-/

namespace KernelForge.Yaml

/-- Reads a scalar that denotes a value of a kind. One that denotes nothing leaves what is held. -/
def readValue {α : Type} (accept : Value → Option α) (node : Node) (held : α) : Reading α :=
  visit node fun
    | .scalar _ tag text => do
      match ← denoted tag text with
      | .null => return held
      | value =>
        match accept value with
        | some accepted => return accepted
        | none => mismatch held
    | _ => mismatch held

/-- The magnitude of a number, cut to a whole one below 2 to the power of 64. -/
def magnitude (value : Float) : Nat :=
  value.abs.toUInt64.toNat

/-- A number as a signed integer, cut toward zero. Below the least integer and at the bound above the greatest one it
    is the least. -/
def signed? (value : Float) : Option Int :=
  let bound : Float := 9223372036854775808
  if value.isNaN || value > bound then none
  else if value == bound || value ≤ -bound then some (-0x8000000000000000)
  else if value < 0 then some (-(magnitude value : Int))
  else some (magnitude value)

/-- A number as an unsigned integer, cut toward zero. The bound above the greatest integer is zero again. -/
def unsigned? (value : Float) : Option Int :=
  let bound : Float := 18446744073709551616
  if value.isNaN || value > bound || value ≤ -1 then none
  else if value == bound then some 0
  else some (magnitude value)

/-- An unsigned integer up to a bound. -/
def readUnsigned (greatest : Nat) (node : Node) (held : Nat) : Reading Nat :=
  readValue (fun value => do
    let whole ←
      match value with
      | .integer whole => some whole
      | .number number => unsigned? number
      | _ => none
    if 0 ≤ whole && whole ≤ greatest then some whole.toNat else none) node held

/-- An unsigned integer of 16 bits. -/
def readUInt16 (node : Node) (held : UInt16) : Reading UInt16 := do
  return UInt16.ofNat (← readUnsigned 0xFFFF node held.toNat)

/-- An unsigned integer of 32 bits. -/
def readUInt32 (node : Node) (held : UInt32) : Reading UInt32 := do
  return UInt32.ofNat (← readUnsigned 0xFFFFFFFF node held.toNat)

/-- A signed integer of 64 bits. -/
def readInt64 : Node → Int64 → Reading Int64 :=
  readValue fun
    | .integer whole => if whole ≤ 0x7FFFFFFFFFFFFFFF then some (Int64.ofInt whole) else none
    | .number number => (signed? number).map Int64.ofInt
    | _ => none

/-- A truth value; the words of older versions of the format are understood too. -/
def readBool : Node → Bool → Reading Bool :=
  readValue fun
    | .boolean value => some value
    | .text text =>
      if ["y", "Y", "yes", "on"].contains text then some true
      else if ["n", "N", "no", "off"].contains text then some false
      else none
    | _ => none

/-- A single precision number, rounded from the double that the scalar denotes. -/
def readSingle : Node → Float32 → Reading Float32 :=
  readValue fun
    | .integer value => some (Float.ofInt value).toFloat32
    | .number value => some value.toFloat32
    | _ => none

/-- Reads a scalar as it is written. One that denotes nothing leaves what is held. -/
def readWritten {α : Type} (readText : String → Reading α) (node : Node) (held : α) : Reading α :=
  visit node fun
    | .scalar _ tag text => do
      match ← written? tag text with
      | some text => readText text
      | none => return held
    | _ => mismatch held

/-- A text: any scalar as it is written, except nothing. -/
def readText : Node → String → Reading String :=
  readWritten pure

/-- The value with a name. -/
def parsed {α : Type} (result : Except Failure α) : Reading α :=
  match result with
  | .ok value => return value
  | .error failure => throw failure

/-- Whether a node denotes nothing. -/
def saysNothing (node : Node) : Reading Bool := do
  let node ← meant node
  return node.isScalar && node.isNull

/-- An item of a list, read onto a blank one. One that denotes nothing is left out. -/
def readItem {α : Type} (readNode : Node → α → Reading α) (blank : α) (node : Node) : Reading (Option α) := do
  let value ← readNode node blank
  return if ← saysNothing node then none else some value

/-- A list, which replaces the one held. -/
def readList {α : Type} (item : Node → Reading (Option α)) (node : Node) (held : List α) :
    Reading (List α) :=
  visit node fun
    | .sequence _ items => items.filterMapM item
    | .scalar _ tag text => do
      match ← denoted tag text with
      | .null => return []
      | _ => mismatch held
    | _ => mismatch held

/-- Whether a node is a collection with the tag of nothing, which is neither a missing part nor one that can be read. -/
def isEmptyClaim (node : Node) : Reading Bool := do
  let node ← meant node
  return !node.isScalar && node.isNull

/-- A part that may be missing: nothing takes it away, and anything else is read onto a blank one. -/
def readOptional {α : Type} (readNode : Node → α → Reading α) (blank : α) (node : Node) (held : Option α) :
    Reading (Option α) := do
  if ← isEmptyClaim node then mismatch held else readItem readNode blank node

/-- A field of a record in a document. -/
abbrev Field := KernelForge.Field Node Reading

/-- A record. An unknown key is passed over, or noted as wrong when the reading is strict. -/
def readRecord {σ : Type} (strict : Bool) (fields : List (Field σ)) (node : Node) (held : σ) :
    Reading σ :=
  let reader : EntryReader σ :=
    { once := fun name => fields.any (·.key == name)
      read := fun _ name node record =>
        match fields.find? (·.key == name) with
        | some field => field.read node record
        | none => if strict then mismatch record else return record }
  visit node fun
    | .mapping _ entries => readMapping reader entries held
    | .scalar _ tag text => do
      match ← denoted tag text with
      | .null => return held
      | _ => mismatch held
    | _ => mismatch held

/-- Named values by key, which are read apart from the rest. A value that denotes nothing is the given one, unless
    there is one already. -/
def readDictionary {α : Type} (parse : String → Except Failure α) (absent : α) (node : Node) :
    Reading (List (String × α)) :=
  let reader : EntryReader (List (String × α)) :=
    { once := fun _ => false
      read := fun merged name node held => do
        let value ← readWritten (fun text => parsed (parse text)) node absent
        if merged && held.any (·.1 == name) && (← saysNothing node) then return held
        else return held.filter (·.1 != name) ++ [(name, value)] }
  apart do
    if ← isEmptyClaim node then mismatch []
    else
      visit node fun
        | .mapping _ entries => readMapping reader entries []
        | .scalar _ tag text => do
          match ← denoted tag text with
          | .null => return []
          | _ => mismatch []
        | _ => mismatch []

/-- The readers of this format; a strict reading refuses unknown keys. -/
def format (strict : Bool) : Format Node Reading where
  boolean := readBool
  uint16 := readUInt16
  uint32 := readUInt32
  int64 := readInt64
  single := readSingle
  text := readText
  named name node record :=
    readWritten (fun text => do return name.put record (← parsed (name.parse text))) node record
  dictionary := readDictionary
  record := readRecord strict

/-- Reads the first document of a text onto a value; `none` if there is no document. -/
def read? {α : Type} (readNode : Node → α → Reading α) (text : String) (held : α) : Except Failure (Option α) :=
  match parse text with
  | none => .error malformed
  | some none => .ok none
  | some (some document) => some <$> document.run text.length fun node => readNode node held

/-- Reads a text onto a value. A text without a document leaves the value as it was. -/
def readOnto {α : Type} (readNode : Node → α → Reading α) (text : String) (held : α) : Except Failure α :=
  return (← read? readNode text held).getD held

end KernelForge.Yaml
