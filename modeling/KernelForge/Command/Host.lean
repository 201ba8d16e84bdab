import KernelForge.Command.Files
import KernelForge.Generator

/-!
What a command needs of the world around it: files, two streams, fresh identifiers and a way to answer
requests. A session is such a world as a value, so that what a command does can be looked at.
-/

namespace KernelForge.Command

/-- The world around a command. -/
structure Host (m : Type → Type) where
  /-- Reads a text file. -/
  read : String → m (Except Failure String)
  /-- Writes a text file and makes the directories above it. -/
  write : String → String → m (Except Failure Unit)
  /-- Writes to the standard output. -/
  print : String → m Unit
  /-- Writes to the standard error. -/
  report : String → m Unit
  /-- A fresh identifier. -/
  identifier : m String
  /-- Answers requests at an address until it is stopped. -/
  serve : String → Generator → m (Except Failure Unit)

/-- A world as a value: its files, what was written to the two streams, and the next identifier. -/
structure Session where
  files : Files := {}
  printed : String := ""
  reported : String := ""
  identifier : String := ""

/-- The world of a session. All its identifiers are the same, and nobody asks it for anything. -/
def Session.host : Host (StateM Session) where
  read path := do return (← get).files.read path
  write path text := do
    match (← get).files.write path text with
    | .ok files =>
      modify fun session => { session with files }
      return .ok ()
    | .error failure => return .error failure
  print text := modify fun session => { session with printed := session.printed ++ text }
  report text := modify fun session => { session with reported := session.reported ++ text }
  identifier := do return (← get).identifier
  serve _ _ := return .ok ()

end KernelForge.Command
