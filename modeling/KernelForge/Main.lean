import KernelForge.Command.Action

/-!
The program. It runs the commands in the world of the process; all else is decided by the library.
-/

namespace KernelForge.Command

/-- The failure that an error of the system is reported as. -/
def systemFailure (path : String) : IO.Error → Failure
  | .noFileOrDirectory .. => PathFault.missing.failure "open" path
  | error => .plain (toString error)

/-- A random identifier: 16 bytes in hexadecimal groups, six bits of which tell that they are random. -/
def randomIdentifier : IO String := do
  let bytes := (← IO.getRandomBytes 16).toList
  let marked := bytes.zipIdx.map fun (byte, index) =>
    if index = 6 then (byte &&& 0x0F) ||| 0x40
    else if index = 8 then (byte &&& 0x3F) ||| 0x80
    else byte
  let digits := marked.flatMap fun byte => Text.hexPadded 2 byte.toNat
  let group (start count : Nat) := String.ofList ((digits.drop start).take count)
  return "-".intercalate [group 0 8, group 8 4, group 12 4, group 16 4, group 20 12]

/-- The world of the process. It cannot be asked over a network. -/
def processHost : Host IO where
  read path := do
    try return .ok (← IO.FS.readFile path)
    catch error => return .error (systemFailure path error)
  write path text := do
    try
      if directoryOf path ≠ "." then IO.FS.createDirAll (directoryOf path)
      IO.FS.writeFile path text
      return .ok ()
    catch error => return .error ((systemFailure path error).within s!"writing {path}")
  print text := IO.print text
  report text := IO.eprint text
  identifier := randomIdentifier
  serve address _ := return .error (.plain s!"cannot listen on {address}")

/-- The directory of configurations: the one that is named, or else the usual one. -/
def configurationDirectory : IO (Option String) := do
  match ← IO.getEnv "XDG_CONFIG_HOME" with
  | some directory => if directory ≠ "" then return some directory
  | none => pure ()
  return (← IO.getEnv "HOME").map (· ++ "/.config")

/-- How the program is used. -/
def usageText : String :=
  "mfagen [options] gemm | attention | bundle | verify gemm | verify attention | serve | tables\n"

end KernelForge.Command

/-- Runs the program with its arguments. -/
def main (arguments : List String) : IO UInt32 := do
  let environment : KernelForge.Command.Environment :=
    ⟨← IO.getEnv KernelForge.Device.familyVariable, ← KernelForge.Command.configurationDirectory⟩
  match ← KernelForge.Command.run KernelForge.Command.processHost environment arguments with
  | .usage failed =>
    IO.print KernelForge.Command.usageText
    return if failed then 1 else 0
  | .finished (.ok _) => return 0
  | .finished (.error failure) =>
    IO.eprintln s!"Error: {failure.message}"
    return 1
