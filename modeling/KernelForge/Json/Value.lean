/-!
The tree of a JSON document. A number is kept as it is written, because what it stands for depends on where
it stands, and the members of an object keep their order.
-/

namespace KernelForge.Json

/-- A JSON value. -/
inductive Value
  | null
  | boolean (value : Bool)
  | number (text : String)
  | text (value : String)
  | list (items : List Value)
  | object (members : List (String × Value))
  deriving Inhabited

namespace Value

/-- An integer. -/
def integer (value : Int) : Value :=
  .number (toString value)

/-- A natural number. -/
def natural (value : Nat) : Value :=
  .number (toString value)

/-- The value of a member of an object; of two with one key the later. -/
def member? (value : Value) (key : String) : Option Value :=
  match value with
  | .object members => (members.reverse.find? (·.1 == key)).map (·.2)
  | _ => none

end Value

end KernelForge.Json
