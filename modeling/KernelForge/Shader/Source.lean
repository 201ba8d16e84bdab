import KernelForge.Text.Blank

/-!
Shader source as a tree. A kernel is written as nested statements and turned into lines by one function, so
braces balance and indentation follows the nesting whatever the generator does. A line is kept without its
end; the text of a tree is its lines, each followed by a line feed.
-/

namespace KernelForge.Shader

/-- The memory that a pointer points into. -/
inductive AddressSpace
  | device
  | threadgroup
  deriving DecidableEq, Repr

namespace AddressSpace

/-- Both spaces, in the order in which accesses are declared. -/
def all : List AddressSpace := [device, threadgroup]

/-- The space with a number: one is threadgroup memory, any other is device memory. -/
def ofCode (code : UInt8) : AddressSpace :=
  if code = 1 then threadgroup else device

/-- The qualifier of the space. -/
def keyword : AddressSpace → String
  | device => "device"
  | threadgroup => "threadgroup"

/-- The integer type of element offsets. Sixteen bits reach all of threadgroup memory. -/
def indexType : AddressSpace → String
  | device => "uint"
  | threadgroup => "ushort"

/-- A pointer to a scalar in the space. -/
def pointer (space : AddressSpace) (scalar : String) : String :=
  space.keyword ++ " " ++ scalar ++ " *"

end AddressSpace

/-- A truth value as a literal. -/
def boolean (value : Bool) : String :=
  if value then "true" else "false"

/-- What the compiler is told about a loop. -/
inductive Unroll
  | none
  | full
  | disable
  deriving DecidableEq, Repr

namespace Unroll

/-- The mode with a number; numbers without a mode say nothing. -/
def ofCode (code : UInt8) : Unroll :=
  if code = 1 then full else if code = 2 then disable else none

/-- The line in front of the loop. -/
def pragma? : Unroll → Option String
  | none => Option.none
  | full => some "#pragma clang loop unroll(full)"
  | disable => some "#pragma clang loop unroll(disable)"

end Unroll

/-- A piece of shader source. -/
inductive Stmt
  /-- One line. -/
  | line (text : String)
  /-- Several lines; those of blanks only become empty. -/
  | raw (text : String)
  /-- An empty line. -/
  | blank
  /-- A comment of one line. -/
  | comment (text : String)
  /-- A header and a body in braces. -/
  | block (header : String) (body : List Stmt)
  /-- A body in braces. -/
  | scope (body : List Stmt)
  /-- A body one level deeper, without braces. -/
  | indent (body : List Stmt)
  /-- A conditional. -/
  | cond (condition : String) (body : List Stmt)
  /-- A conditional with two ways. -/
  | condElse (condition : String) (body otherwise : List Stmt)
  /-- A loop; the header stands between its parentheses. -/
  | loop (unroll : Unroll) (header : String) (body : List Stmt)
  /-- All threads of the threadgroup meet here. -/
  | barrier
  deriving Inhabited

/-- The line of a barrier. -/
def barrierLine : String := "threadgroup_barrier(mem_flags::mem_threadgroup);"

/-- A text at a depth, indented by a unit for each level. -/
def indented (unit : String) (depth : Nat) (text : String) : String :=
  String.join (List.replicate depth unit) ++ text

/-- The lines of a fragment. One line feed at its end is not the start of another line. -/
def rawLines (unit : String) (depth : Nat) (text : String) : List String :=
  (Text.pieces '\n' (Text.dropEnding "\n" text)).map fun line =>
    if (Text.trim line).isEmpty then "" else indented unit depth line

mutual

/-- The lines of a statement at a depth. -/
def Stmt.lines (unit : String) (depth : Nat) : Stmt → List String
  | .line text => [indented unit depth text]
  | .raw text => rawLines unit depth text
  | .blank => [""]
  | .comment text => [indented unit depth ("// " ++ text)]
  | .block header body => braced unit depth (header ++ " \x7b") body
  | .scope body => braced unit depth "\x7b" body
  | .indent body => linesAll unit (depth + 1) body
  | .cond condition body => braced unit depth ("if (" ++ condition ++ ") \x7b") body
  | .condElse condition body otherwise =>
    indented unit depth ("if (" ++ condition ++ ") \x7b") :: linesAll unit (depth + 1) body ++
      indented unit depth "\x7d else \x7b" :: linesAll unit (depth + 1) otherwise ++
      [indented unit depth "\x7d"]
  | .loop unroll header body =>
    (unroll.pragma?.map (indented unit depth)).toList ++
      braced unit depth ("for (" ++ header ++ ") \x7b") body
  | .barrier => [indented unit depth barrierLine]

/-- An opening line, the lines of a body one level deeper, and a closing brace. -/
def braced (unit : String) (depth : Nat) (opening : String) (body : List Stmt) : List String :=
  indented unit depth opening :: linesAll unit (depth + 1) body ++ [indented unit depth "\x7d"]

/-- The lines of statements in a row. -/
def linesAll (unit : String) (depth : Nat) : List Stmt → List String
  | [] => []
  | statement :: rest => statement.lines unit depth ++ linesAll unit depth rest

end

/-- Lines as text: each is followed by a line feed. -/
def unlines (lines : List String) : String :=
  lines.foldl (fun text line => text ++ line ++ "\n") ""

/-- The text of statements in a row, indented by tabs. -/
def render (statements : List Stmt) (depth : Nat := 0) : String :=
  unlines (linesAll "\t" depth statements)

end KernelForge.Shader
