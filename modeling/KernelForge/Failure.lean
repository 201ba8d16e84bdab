/-!
Failures as callers see them: a class, which decides how a caller reacts, and the whole wording. The
modules of the library have types of their own for what can go wrong; each of those maps into `Failure`
where errors of several modules meet.
-/

namespace KernelForge

/-- The classes of failure that a caller can tell apart. -/
inductive FailureKind
  /-- A required field of a descriptor was left out. -/
  | descriptorIncomplete
  /-- A register format is neither the memory format nor single precision, or an accumulator is narrow. -/
  | invalidPrecisionPair
  /-- The staging blocks of a kernel do not fit the memory of a threadgroup. -/
  | threadgroupMemoryExceeded
  /-- The generation of the GPU is unknown. -/
  | unsupportedDevice
  /-- All fields are there, but they contradict each other. -/
  | invalidDescriptor
  /-- A buffer is shorter than the matrix it should hold. -/
  | bufferSize
  /-- A schedule left the matrix it works on. -/
  | outOfBounds
  /-- The caller gave up before the work was done. -/
  | canceled
  /-- A named file is not there. -/
  | missingFile
  /-- A document is not in the format it should be in. -/
  | malformed
  /-- The computation cannot go on: a division by zero, an index outside its list or a queue of an impossible size. -/
  | abort
  /-- Anything else. -/
  | other
  deriving DecidableEq, Repr

/-- The phrase that every message of a class starts with, where the class has one. -/
def FailureKind.phrase : FailureKind → String
  | .descriptorIncomplete => "descriptor incomplete"
  | .invalidPrecisionPair => "invalid precision pair"
  | .threadgroupMemoryExceeded => "threadgroup memory exceeded"
  | .unsupportedDevice => "unsupported device"
  | .invalidDescriptor => "invalid descriptor"
  | .bufferSize => "reference: buffer too small"
  | .outOfBounds => "reference: kernel accessed memory out of bounds"
  | .canceled => "context canceled"
  | _ => ""

/-- A failure: its class and its full message. -/
structure Failure where
  kind : FailureKind
  message : String
  deriving DecidableEq, Repr

namespace Failure

/-- A failure of a class with a phrase: the phrase, a colon and the detail. -/
def of (kind : FailureKind) (detail : String) : Failure :=
  ⟨kind, kind.phrase ++ ": " ++ detail⟩

/-- A failure without a class of its own. -/
def plain (message : String) : Failure :=
  ⟨.other, message⟩

/-- The same failure with a context in front of the message. The class does not change. Where a computation cannot go
    on, nobody is left to add a context. -/
def within (context : String) (failure : Failure) : Failure :=
  if failure.kind = .abort then failure
  else { failure with message := context ++ ": " ++ failure.message }

@[simp]
theorem kind_within (context : String) (failure : Failure) :
    (failure.within context).kind = failure.kind := by
  unfold within
  split <;> rfl

/-- An integer division by zero. -/
def divisionByZero : Failure :=
  ⟨.abort, "runtime error: integer divide by zero"⟩

/-- The caller gave up. -/
def canceled : Failure :=
  ⟨.canceled, FailureKind.canceled.phrase⟩

/-- An index at or beyond the end of a list. -/
def indexOutOfRange (index length : Nat) : Failure :=
  ⟨.abort, s!"runtime error: index out of range [{index}] with length {length}"⟩

/-- A queue for more items than can be counted. -/
def sizeOutOfRange : Failure :=
  ⟨.abort, "makechan: size out of range"⟩

/-- Several failures of one class, a message a line. -/
def joined (kind : FailureKind) (messages : List String) : Failure :=
  ⟨kind, "\n".intercalate messages⟩

end Failure

end KernelForge
