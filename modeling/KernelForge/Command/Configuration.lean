import KernelForge.Command.Host
import KernelForge.Command.Invocation
import KernelForge.Tuning.Document
import KernelForge.Yaml.Reading

/-!
Where the options of the program come from. What stands on the command line counts first, then the variable that
names the GPU, then the configuration file, and last what an option is by itself.
-/

namespace KernelForge.Command

/-- The configuration file; what it does not mention is missing. -/
structure Configuration where
  family : Option String := none
  mobile : Option Bool := none
  cores : Option Int64 := none
  tuning : Option String := none
  logLevel : Option String := none
  logFormat : Option String := none
  serverAddress : Option String := none
  jobs : Option Int64 := none
  deriving DecidableEq, Repr, Inhabited

/-- Reads a configuration. -/
def Configuration.read : Yaml.Node → Configuration → Yaml.Reading Configuration :=
  let text := Yaml.readOptional Yaml.readText ""
  let integer := Yaml.readOptional Yaml.readInt64 0
  (Yaml.format false).record
    [.of "family" (·.family) (fun held value => { held with family := value }) text,
      .of "mobile" (·.mobile) (fun held value => { held with mobile := value })
        (Yaml.readOptional Yaml.readBool false),
      .of "cores" (·.cores) (fun held value => { held with cores := value }) integer,
      .of "tuning" (·.tuning) (fun held value => { held with tuning := value }) text,
      .of "log_level" (·.logLevel) (fun held value => { held with logLevel := value }) text,
      .of "log_format" (·.logFormat) (fun held value => { held with logFormat := value }) text,
      .of "server_address" (·.serverAddress) (fun held value => { held with serverAddress := value }) text,
      .of "jobs" (·.jobs) (fun held value => { held with jobs := value }) integer]

/-- What the variables of the process say: the GPU of the host, and the directory of configurations. -/
structure Environment where
  family : Option String := none
  configurations : Option String := none
  deriving DecidableEq, Repr, Inhabited

/-- The configuration file when none is named. -/
def Environment.configurationFile? (environment : Environment) : Option String :=
  environment.configurations.map fun directory => cleanPath (directory ++ "/mfagen/config.yaml")

/-- The options of the program as they hold for a command. -/
structure Preferences where
  family : String := ""
  mobile : Bool := false
  cores : Int64 := 0
  tuning : String := ""
  logLevel : String := "info"
  logFormat : String := "text"
  serverAddress : String := "127.0.0.1:8080"
  deriving DecidableEq, Repr, Inhabited

/-- The options of the program from everything that can set them. -/
def Preferences.of (settings : Settings) (environment : Environment) (configuration : Configuration) :
    Preferences where
  family := (((settings.value? "family").or environment.family).or configuration.family).getD ""
  mobile := if settings.has "mobile" then settings.switch "mobile" else configuration.mobile.getD false
  cores := settings.integer "cores" (configuration.cores.getD 0)
  tuning := settings.text "tuning" (configuration.tuning.getD "")
  logLevel := settings.text "log-level" (configuration.logLevel.getD "info")
  logFormat := settings.text "log-format" (configuration.logFormat.getD "text")
  serverAddress := settings.text "addr" (configuration.serverAddress.getD "127.0.0.1:8080")

/-- The device that kernels are generated for: the family that is named, or else the host. -/
def Preferences.device (preferences : Preferences) (environment : Environment) : Except Failure Device := do
  let device ←
    if preferences.family = "" then
      (Device.detect environment.family).mapError fun failure =>
        { failure with message := failure.message ++ " (pass --family to generate for another GPU)" }
    else do
      let family ← (Family.parse preferences.family).mapError DeviceDefect.failure
      pure { name := family.name, family, mobile := preferences.mobile }
  return if 0 < preferences.cores then { device with cores := preferences.cores } else device

section Loading

variable {m : Type → Type} [Monad m]

/-- Reads the configuration. A file that is named has to be there; the usual one may be missing. -/
def loadConfiguration (host : Host m) (environment : Environment) (settings : Settings) :
    ExceptT Failure m Configuration := do
  let named := settings.text "config" ""
  let path? := if named = "" then environment.configurationFile? else some named
  match path? with
  | none => return {}
  | some path =>
    match ← ExceptT.lift (host.read path) with
    | .error failure =>
      if named = "" && failure.kind = .missingFile then return {}
      else throw (failure.within "reading config")
    | .ok text =>
      (Yaml.readOnto Configuration.read text {}).mapError (Failure.within s!"parsing config {path}")

/-- Reads the tuning tables: a file laid over the built-in ones. -/
def loadTables (host : Host m) (preferences : Preferences) : ExceptT Failure m Tuning.Tables := do
  if preferences.tuning = "" then return Tuning.Tables.builtIn
  else
    match ← ExceptT.lift (host.read preferences.tuning) with
    | .error failure => throw (failure.within "reading tuning tables")
    | .ok text => Tuning.Tables.parse text

end Loading

end KernelForge.Command
