import KernelForge.Shader.Source

/-!
Writing shader source call by call. A writer holds the text so far and counts how deep the next line is indented. A call
appends to the text; one with a body counts up for it, and down again after it. What a tree of statements stands for is
written by making its calls in order.
-/

namespace KernelForge.Shader

/-- Shader source in the course of being written. -/
structure Writer where
  /-- What was written so far. -/
  buffer : String := ""
  /-- How many tabs a line starts with. -/
  indent : Nat := 0
  deriving DecidableEq, Repr, Inhabited

namespace Writer

/-- The number of bytes that were written. -/
def length (writer : Writer) : Nat :=
  writer.buffer.utf8ByteSize

/-- Writes a text as it is. -/
def put (text : String) (writer : Writer) : Writer :=
  { writer with buffer := writer.buffer ++ text }

/-- Writes an empty line. -/
def blank : Writer → Writer :=
  put "\n"

/-- Writes one line. A line with values in it is written once they stand in its text. -/
def line (text : String) (writer : Writer) : Writer :=
  ((Nat.repeat (put "\t") writer.indent writer).put text).put "\n"

/-- Writes several lines; those of blanks only become empty. One line feed at the end does not start another line. -/
def raw (text : String) (writer : Writer) : Writer :=
  (Text.pieces '\n' (Text.dropEnding "\n" text)).foldl
    (fun writer line => if (Text.trim line).isEmpty then writer.blank else writer.line line) writer

/-- Writes a comment of one line. -/
def comment (text : String) : Writer → Writer :=
  line ("// " ++ text)

/-- Writes a body one level deeper. -/
def deeper (body : Writer → Writer) (writer : Writer) : Writer :=
  let inner := body { writer with indent := writer.indent + 1 }
  { inner with indent := inner.indent - 1 }

/-- Writes a header and a body in braces. -/
def block (header : String) (body : Writer → Writer) (writer : Writer) : Writer :=
  ((writer.line (header ++ " \x7b")).deeper body).line "\x7d"

/-- Writes a body in braces. -/
def scope (body : Writer → Writer) (writer : Writer) : Writer :=
  ((writer.line "\x7b").deeper body).line "\x7d"

/-- Writes a conditional. -/
def cond (condition : String) : (body : Writer → Writer) → Writer → Writer :=
  block ("if (" ++ condition ++ ")")

/-- Writes a conditional with two ways. -/
def condElse (condition : String) (body otherwise : Writer → Writer) (writer : Writer) : Writer :=
  ((((writer.line ("if (" ++ condition ++ ") \x7b")).deeper body).line "\x7d else \x7b").deeper otherwise).line "\x7d"

/-- Writes a loop behind what the compiler is told about it; the header stands between its parentheses. -/
def loop (unroll : Unroll) (header : String) (body : Writer → Writer) (writer : Writer) : Writer :=
  let writer :=
    match unroll.pragma? with
    | some pragma => writer.line pragma
    | none => writer
  writer.block ("for (" ++ header ++ ")") body

/-- Writes that all threads of the threadgroup meet. -/
def barrier : Writer → Writer :=
  line barrierLine

end Writer

mutual

/-- Makes the call that a statement stands for. -/
def Stmt.write : Stmt → Writer → Writer
  | .line text => Writer.line text
  | .raw text => Writer.raw text
  | .blank => Writer.blank
  | .comment text => Writer.comment text
  | .block header body => Writer.block header (writeAll body)
  | .scope body => Writer.scope (writeAll body)
  | .indent body => Writer.deeper (writeAll body)
  | .cond condition body => Writer.cond condition (writeAll body)
  | .condElse condition body otherwise => Writer.condElse condition (writeAll body) (writeAll otherwise)
  | .loop unroll header body => Writer.loop unroll header (writeAll body)
  | .barrier => Writer.barrier

/-- Makes the calls of statements in a row. -/
def writeAll : List Stmt → Writer → Writer
  | [] => id
  | statement :: rest => fun writer => writeAll rest (statement.write writer)

end

end KernelForge.Shader
