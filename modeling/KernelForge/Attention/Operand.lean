import KernelForge.Precision

/-!
The matrices and vectors of attention. Eleven live in device memory and are bound to buffers; the last four
are parts of the attention matrix that only exist in registers. Sets of operands are words of 16 bits, and
their text lists the members by buffer, the register-only ones last.
-/

namespace KernelForge.Attention

/-- A matrix or vector of attention. Derivatives carry a `d`; `dST` is the transposed derivative of the
    scores, which takes the place of `dK` when that is computed elsewhere. -/
inductive Operand
  | q
  | k
  | v
  | o
  | l
  | dO
  | d
  | dV
  | dK
  | dQ
  | dST
  | s
  | p
  | dP
  | dS
  deriving DecidableEq, Repr, Inhabited

namespace Operand

/-- All operands by number. -/
def all : List Operand :=
  [q, k, v, o, l, dO, d, dV, dK, dQ, dST, s, p, dP, dS]

/-- The number of an operand. -/
def index : Operand → Fin 15
  | q => 0
  | k => 1
  | v => 2
  | o => 3
  | l => 4
  | dO => 5
  | d => 6
  | dV => 7
  | dK => 8
  | dQ => 9
  | dST => 10
  | s => 11
  | p => 12
  | dP => 13
  | dS => 14

/-- The name of an operand. -/
def name : Operand → String
  | q => "Q"
  | k => "K"
  | v => "V"
  | o => "O"
  | l => "L"
  | dO => "dO"
  | d => "D"
  | dV => "dV"
  | dK => "dK"
  | dQ => "dQ"
  | dST => "dST"
  | s => "S"
  | p => "P"
  | dP => "dP"
  | dS => "dS"

/-- There are fifteen operands. -/
theorem index_lt (operand : Operand) : operand.index.val < 15 :=
  operand.index.isLt

/-- The operand with a number, if there is one. -/
def ofCode? (code : UInt8) : Option Operand :=
  all[code.toNat]?

/-- The text for a number, also where there is no operand. -/
def nameOfCode (code : UInt8) : String :=
  match ofCode? code with
  | some operand => operand.name
  | none => s!"Operand({code})"

/-- The operand with a name; blanks around it do not matter. -/
def ofName? (text : String) : Option Operand :=
  all.find? (·.name == Text.trim text)

/-- As `ofName?`, with the failure that names the text. -/
def parse (text : String) : Except Failure Operand :=
  match ofName? text with
  | some operand => .ok operand
  | none => .error (.of .invalidDescriptor s!"unknown attention operand {Text.quote text}")

/-- The buffer of an operand in device memory. -/
def binding? : Operand → Option Nat
  | q => some 0
  | k => some 1
  | v => some 2
  | o => some 3
  | l => some 4
  | dO => some 5
  | d => some 6
  | dV => some 7
  | dK => some 8
  | dQ => some 9
  | dST => some 8
  | _ => none

/-- Whether the operand runs along the output sequence, rather than along the input sequence. -/
def isRowIndexed : Operand → Bool
  | q | o | l | dO | d | dQ => true
  | _ => false

/-- The operands in the order of their buffers, the register-only ones last. -/
def inBindingOrder : List Operand :=
  [q, k, v, o, l, dO, d, dV, dK, dST, dQ, s, p, dP, dS]

end Operand

/-- A set of operands, a bit for each number. The sixteenth bit stands for no operand. -/
structure OperandSet where
  bits : UInt16
  deriving DecidableEq, Repr, Inhabited

namespace OperandSet

/-- The empty set. -/
def empty : OperandSet := ⟨0⟩

/-- The bit of a number; numbers from sixteen on have none. -/
def bitOf (code : UInt8) : UInt16 :=
  if code < 16 then 1 <<< code.toUInt16 else 0

/-- The set with the bit of a number. -/
def insertCode (set : OperandSet) (code : UInt8) : OperandSet :=
  ⟨set.bits ||| bitOf code⟩

/-- Whether the set has the bit of a number. -/
def hasCode (set : OperandSet) (code : UInt8) : Bool :=
  set.bits &&& bitOf code ≠ 0

/-- The set with an operand. -/
def insert (set : OperandSet) (operand : Operand) : OperandSet :=
  set.insertCode (UInt8.ofNat operand.index)

/-- Whether an operand is in the set. -/
def contains (set : OperandSet) (operand : Operand) : Bool :=
  set.hasCode (UInt8.ofNat operand.index)

/-- The operands of a list as a set. -/
def ofList (operands : List Operand) : OperandSet :=
  operands.foldl insert empty

/-- What two sets have in common. -/
def inter (first second : OperandSet) : OperandSet :=
  ⟨first.bits &&& second.bits⟩

/-- What is in one of two sets. -/
def union (first second : OperandSet) : OperandSet :=
  ⟨first.bits ||| second.bits⟩

/-- The members in the order of their buffers. -/
def toList (set : OperandSet) : List Operand :=
  Operand.inBindingOrder.filter set.contains

/-- The text of a set. -/
def render (set : OperandSet) : String :=
  Text.joined "," (set.toList.map Operand.name)

/-- Reads names between commas. Blank places between commas say nothing, order and repetition do not
    matter. -/
def parse (text : String) : Except Failure OperandSet :=
  (Text.pieces ',' text).foldlM (fun set piece =>
    if (Text.trim piece).isEmpty then .ok set
    else (Operand.parse piece).map set.insert) empty

end OperandSet

/-- A format for each operand. -/
structure Precisions where
  values : Vector Precision 15
  deriving DecidableEq, Repr

namespace Precisions

/-- No format for any operand. -/
def unset : Precisions := ⟨Vector.replicate 15 .unset⟩

instance : Inhabited Precisions := ⟨unset⟩

/-- The format of an operand. -/
def get (precisions : Precisions) (operand : Operand) : Precision :=
  precisions.values.get operand.index

/-- The formats with one changed. -/
def set (precisions : Precisions) (operand : Operand) (precision : Precision) : Precisions :=
  ⟨precisions.values.set operand.index.val precision operand.index_lt⟩

/-- The formats with those of several operands changed. -/
def setAll (precisions : Precisions) (operands : List Operand) (precision : Precision) : Precisions :=
  operands.foldl (fun held operand => held.set operand precision) precisions

/-- The operands that have a format, with it, in the order of their names. -/
def named (precisions : Precisions) : List (String × Precision) :=
  let assigned := Operand.all.filter fun operand => (precisions.get operand).isValid
  (assigned.map fun operand => (operand.name, precisions.get operand)).mergeSort
    fun first second => first.1 ≤ second.1

/-- The formats given by name; the first unknown name is the failure. -/
def ofNamed (entries : List (String × Precision)) : Except Failure Precisions :=
  entries.foldlM (fun precisions entry =>
    (Operand.parse entry.1).map fun operand => precisions.set operand entry.2) unset

end Precisions

end KernelForge.Attention
