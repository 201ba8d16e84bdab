import KernelForge.Json.Printer
import KernelForge.Text.Decimal
import KernelForge.Shader.Program
import KernelForge.Device
import KernelForge.Document

/-!
Building JSON objects member by member. A member can be left out when it says nothing; whether a nested
object that says nothing is left out as well depends on the dialect.
-/

namespace KernelForge.Json

/-- The two ways of writing a document. The `full` one keeps nested objects in which nothing is set, and writes
    numbers that are not finite by their names; the `strict` one leaves such objects out, and has no text for
    such numbers. -/
inductive Dialect
  | full
  | strict
  deriving DecidableEq, Repr

/-- A member in a list of members. -/
def member (key : String) (value : Value) : List (String × Value) :=
  [(key, value)]

/-- A number that is left out when it is zero. -/
def naturalUnlessZero (key : String) (value : Nat) : List (String × Value) :=
  if value = 0 then [] else member key (.natural value)

/-- A truth value that is left out when it is false. -/
def flagIfSet (key : String) (value : Bool) : List (String × Value) :=
  if value then member key (.boolean true) else []

/-- A text that is left out when it is empty. -/
def textUnlessEmpty (key : String) (value : String) : List (String × Value) :=
  if value.isEmpty then [] else member key (.text value)

/-- An object that may be left out when it has no members. -/
def optionalObject (dialect : Dialect) (key : String) (members : List (String × Value)) :
    List (String × Value) :=
  if members.isEmpty && dialect = .strict then [] else member key (.object members)

/-- The name of a number that is not finite. -/
def nonFiniteName (value : Float32) : String :=
  if value.isNaN then "NaN" else if value < 0 then "-Inf" else "+Inf"

/-- A single precision number by its shortest notation, which only finite numbers have. -/
def single (dialect : Dialect) (value : Float32) : Except Failure Value :=
  match Text.shortestSingle? value, dialect with
  | some text, _ => .ok (.number text)
  | none, .full => .ok (.number (nonFiniteName value))
  | none, .strict => .error (.plain s!"json: unsupported value: {nonFiniteName value}")

end KernelForge.Json

namespace KernelForge

open Json (Value)

/-- The members that say what a slot is. -/
def Shader.FunctionConstant.members (constant : Shader.FunctionConstant) : List (String × Value) :=
  [("index", .natural constant.index), ("name", .text constant.name), ("type", .text constant.type.name)]

/-- A slot as JSON. -/
def Shader.FunctionConstant.json (constant : Shader.FunctionConstant) : Value :=
  .object constant.members

/-- A filled slot as JSON. -/
def Shader.BoundConstant.json (dialect : Json.Dialect) (bound : Shader.BoundConstant) :
    Except Failure Value := do
  let content ←
    match bound.content with
    | .uint value => pure (Value.natural value.toNat)
    | .bool value => pure (.boolean value)
    | .float value => Json.single dialect value
  return .object (bound.constant.members ++ [("value", content)])

/-- A device as JSON. -/
def Device.json (device : Device) : Value :=
  .object (Json.textUnlessEmpty "name" device.name ++ Json.member "family" (.text device.family.name) ++
    Json.flagIfSet "mobile" device.mobile ++
    (if device.cores = 0 then [] else Json.member "core_count" (.integer device.cores.toInt)))

/-- Reads a device. -/
def Device.read {Node : Type} {m : Type → Type} [Monad m] (format : Format Node m) :
    Node → Device → m Device :=
  format.record
    [.of "name" (·.name) (fun device value => { device with name := value }) format.text,
      format.field "family" (fun text => (Family.parse text).mapError DeviceDefect.failure)
        (fun device value => { device with family := value })
        (fun device => { device with family := default, mobile := false }),
      .of "mobile" (·.mobile) (fun device value => { device with mobile := value }) format.boolean,
      .of "core_count" (·.cores) (fun device value => { device with cores := value }) format.int64]

end KernelForge
