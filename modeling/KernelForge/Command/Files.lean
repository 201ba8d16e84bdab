import KernelForge.Failure

/-!
A tree of directories and text files as a value, and the paths that lead into it. A path is followed part by part:
every part but the last has to be a directory, `.` stays where it is and `..` goes up. A path that ends with a
slash means a directory. Where a path is only rewritten as text, `..` takes the part in front of it away without
looking at the tree.
-/

namespace KernelForge.Command

/-- Why a path cannot be used. -/
inductive PathFault
  | missing
  | notDirectory
  | isDirectory
  | present
  | invalid
  | tooLong
  deriving DecidableEq, Repr

/-- The wording of a fault. -/
def PathFault.message : PathFault → String
  | .missing => "no such file or directory"
  | .notDirectory => "not a directory"
  | .isDirectory => "is a directory"
  | .present => "file exists"
  | .invalid => "invalid argument"
  | .tooLong => "file name too long"

/-- The failure of an operation on a path. That something is missing is a class of its own. -/
def PathFault.failure (fault : PathFault) (operation path : String) : Failure :=
  ⟨if fault = .missing then .missingFile else .other, s!"{operation} {path}: {fault.message}"⟩

/-- Whether a path starts at the root. -/
def isRooted (path : String) : Bool :=
  path.toList.head? = some '/'

/-- The parts of a path between slashes. -/
def pathParts (path : String) : List String :=
  (path.splitOn "/").filter (· != "")

/-- The shortest path that means the same if every part of it is a directory; a part `..` takes the one in front
    of it away, and at the root it means nothing. -/
def cleanPath (path : String) : String :=
  let parts := (pathParts path).foldl (fun parts part =>
    if part = "." then parts
    else if part ≠ ".." then parts ++ [part]
    else if parts.isEmpty || parts.getLast? = some ".." then (if isRooted path then parts else parts ++ [".."])
    else parts.dropLast) []
  if isRooted path then "/" ++ "/".intercalate parts
  else if parts.isEmpty then "."
  else "/".intercalate parts

/-- The path up to its last slash. -/
def upToSlash (path : String) : String :=
  String.ofList (path.toList.reverse.dropWhile (· != '/')).reverse

/-- The directory of a file, as text. -/
def directoryOf (path : String) : String :=
  cleanPath (upToSlash path)

/-- The path of the directory above, with a slash at its end; it is empty at the front of a path. -/
def above (path : String) : String :=
  upToSlash (String.ofList (path.toList.reverse.dropWhile (· == '/')).reverse)

/-- What can stand at a place of the tree. -/
inductive FileEntry
  | directory
  | file (text : String)
  deriving DecidableEq, Repr

/-- A tree of files: the directory that other paths than those from the root start at, the directories, and the
    files, each by the parts that lead to it from the root. -/
structure Files where
  working : List String := []
  directories : List (List String) := []
  texts : List (List String × String) := []

namespace Files

/-- What stands at a place. Directories are there when they were made, or when something is below them. -/
def entry? (files : Files) (place : List String) : Option FileEntry :=
  match files.texts.find? (·.1 == place) with
  | some (_, text) => some (.file text)
  | none =>
    if place.isPrefixOf files.working || files.directories.any (place.isPrefixOf ·) ||
        files.texts.any (place.isPrefixOf ·.1) then some .directory
    else none

/-- Follows one part of a path. -/
def follow (files : Files) (place : List String) (part : String) : Except PathFault (List String) :=
  match files.entry? place with
  | none => .error .missing
  | some (.file _) => .error .notDirectory
  | some .directory =>
    if part = "." then .ok place
    else if part = ".." then .ok place.dropLast
    else if 255 < part.utf8ByteSize then .error .tooLong
    else .ok (place ++ [part])

/-- The place that a path leads to. Whether something is there is not asked of the last part. -/
def locate (files : Files) (path : String) : Except PathFault (List String) :=
  if path.toList.contains (Char.ofNat 0) then .error .invalid
  else if path = "" then .error .missing
  else if 4096 ≤ path.utf8ByteSize then .error .tooLong
  else (pathParts path).foldlM files.follow (if isRooted path then [] else files.working)

/-- Whether a path ends with a slash. -/
def endsWithSlash (path : String) : Bool :=
  path.toList.getLast? = some '/'

/-- What a path leads to. -/
def find (files : Files) (path : String) : Except PathFault FileEntry := do
  match files.entry? (← files.locate path) with
  | none => .error .missing
  | some .directory => return .directory
  | some (.file text) => if endsWithSlash path then .error .notDirectory else return .file text

/-- Reads a file. -/
def read (files : Files) (path : String) : Except Failure String :=
  match files.find path with
  | .ok (.file text) => .ok text
  | .ok .directory => .error (PathFault.isDirectory.failure "read" path)
  | .error fault => .error (fault.failure "open" path)

/-- Puts a text into a file, which is made if it is not there. -/
def put (files : Files) (path text : String) : Except PathFault Files := do
  let place ← files.locate path
  if endsWithSlash path || files.entry? place = some .directory then .error .isDirectory
  else return { files with texts := (place, text) :: files.texts.filter (·.1 != place) }

/-- Makes a directory. -/
def makeDirectory (files : Files) (path : String) : Except PathFault Files := do
  let place ← files.locate path
  if (files.entry? place).isSome then .error .present
  else return { files with directories := place :: files.directories }

/-- Makes a directory and those above it. The depth bounds how many those are. -/
def makeDirectories : Nat → Files → String → Except Failure Files
  | depth, files, path =>
    match files.find path with
    | .ok .directory => .ok files
    | .ok (.file _) => .error (PathFault.notDirectory.failure "mkdir" path)
    | .error _ =>
      let upper : Except Failure Files :=
        match depth, above path with
        | _, "" => .ok files
        | 0, _ => .ok files
        | deeper + 1, parent => makeDirectories deeper files parent
      match upper with
      | .error failure => .error failure
      | .ok files =>
        match files.makeDirectory path with
        | .ok files => .ok files
        | .error fault =>
          if files.find path matches .ok .directory then .ok files else .error (fault.failure "mkdir" path)

/-- Writes a file and makes the directories above it. -/
def write (files : Files) (path text : String) : Except Failure Files := do
  let directory := directoryOf path
  let files ← if directory = "." then pure files else makeDirectories directory.length files directory
  (files.put path text).mapError fun fault => (fault.failure "open" path).within s!"writing {path}"

/-- The tree with a text at a place. -/
def insert (files : Files) (place : List String) (text : String) : Files :=
  { files with texts := (place, text) :: files.texts }

end Files

end KernelForge.Command
