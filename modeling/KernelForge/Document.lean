import KernelForge.Failure

/-!
What a document format offers to those who read typed values out of it. Each reader takes a node and the
value held so far and gives the value after it, so that what a document does not mention keeps its value. A
type describes its fields once and can then be read from every format.
-/

namespace KernelForge

/-- A field of a record: its key and how its node changes the record. -/
structure Field (Node : Type) (m : Type → Type) (σ : Type) where
  key : String
  read : Node → σ → m σ

/-- The field with a key that is read into a part of the record. -/
def Field.of {Node : Type} {m : Type → Type} [Monad m] {σ α : Type} (key : String) (get : σ → α)
    (put : σ → α → σ) (read : Node → α → m α) : Field Node m σ :=
  ⟨key, fun node record => do return put record (← read node (get record))⟩

/-- How a value with a name of its own is read into a record. -/
structure Named (σ α : Type) where
  parse : String → Except Failure α
  put : σ → α → σ
  /-- What is left of the record when the value is cleared. Clearing goes by eight bytes, so that what is packed
      behind the value is cleared as well. -/
  clear : σ → σ

/-- The readers of a format. -/
structure Format (Node : Type) (m : Type → Type) where
  boolean : Node → Bool → m Bool
  uint16 : Node → UInt16 → m UInt16
  uint32 : Node → UInt32 → m UInt32
  int64 : Node → Int64 → m Int64
  single : Node → Float32 → m Float32
  text : Node → String → m String
  /-- A value with a name of its own. -/
  named : {σ α : Type} → Named σ α → Node → σ → m σ
  /-- Named values by key; a value that says nothing is the given one. -/
  dictionary : {α : Type} → (String → Except Failure α) → α → Node → m (List (String × α))
  record : {σ : Type} → List (Field Node m σ) → Node → σ → m σ

/-- The field with a key that holds a value with a name of its own. -/
def Format.field {Node : Type} {m : Type → Type} {σ α : Type} (format : Format Node m) (key : String)
    (parse : String → Except Failure α) (put : σ → α → σ) (clear : σ → σ) : Field Node m σ :=
  ⟨key, format.named ⟨parse, put, clear⟩⟩

end KernelForge
