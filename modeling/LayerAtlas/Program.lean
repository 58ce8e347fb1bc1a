import LayerAtlas.CommandLine
import LayerAtlas.Environment
import LayerAtlas.Files.Disk
import LayerAtlas.Report
import LayerAtlas.Service

namespace LayerAtlas

inductive ProgramError where
  | usage (e : UsageError)
  | unreadableSettings (path : String)
  | malformedSettings (path : String)
  | settings (e : SettingsError)
  | scan (e : ScanError)
  deriving DecidableEq, Repr

namespace ProgramError

def message : ProgramError → String
  | usage e => e.message
  | unreadableSettings path => "Loading " ++ path ++ ": Failed to read " ++ path
  | malformedSettings path => "Loading " ++ path ++ ": Failed to parse " ++ path
  | settings e => e.message
  | scan e =>
    "Initial layer catalog population failed: Configuration scan failed: " ++ e.message

def exitCode : ProgramError → Nat
  | usage _ => 2
  | _ => 1

end ProgramError

inductive RunResult where
  | help
  | listing (c : Capabilities)
  | serving (s : Service)

namespace Program

variable {m : Type → Type} [Monad m]

def settings (disk : Disk m) (env : Environment.Variables) (a : Arguments) :
    m (Except ProgramError Settings) := do
  let read : Except ProgramError Settings ← match a.config with
    | none => pure (.ok {})
    | some path => match (← disk.file path).bind FileState.text with
      | none => pure (.error (.unreadableSettings path))
      | some text => match Settings.ofText? text with
        | none => pure (.error (.malformedSettings path))
        | some s => pure (.ok s)
  return do
    let s ← ((← read).withEnvironment env).check.mapError .settings
    return { s with
      root := a.root.getD s.root
      inventoryFile := a.inventory.or s.inventoryFile }

def surroundings (disk : Disk m) (s : Settings) (now : Instant) : m Surroundings := do
  let products ← disk.customers s.root
  let inventory ← match s.inventoryFile with
    | none => pure (.fixed {})
    | some path => pure (.file (← disk.file path))
  return { products, inventory, now }

/-- The text of a file named `.env` here or, if there is none, further up. -/
def environmentFile (disk : Disk m) : Nat → String → m (Option String)
  | 0, _ => pure none
  | above + 1, up => do
    match ← disk.file (up ++ ".env") with
    | some f => return f.text
    | none => environmentFile disk above (up ++ "../")

def readEnvironment (disk : Disk m) (environment : String → m (Option String)) :
    m Environment.Variables := do
  let depth := ((← disk.real ".").getD "").toList.count '/'
  let text := (← environmentFile disk (depth + 1) "").getD ""
  let names := Arguments.configVariable :: Settings.variableNames ++ Environment.words text
  let values ← names.mapM fun name => do return (name, ← environment name)
  return Environment.addFile (fun name => (values.lookup name).join) text

def listing (s : Service) : Capabilities :=
  Capabilities.ofRequest s.catalog.current {} { layout := s.settings.layout }

def run (disk : Disk m) (environment : String → m (Option String)) (now : Instant)
    (args : List String) : m (Except ProgramError RunResult) := do
  let env ← readEnvironment disk environment
  match Arguments.read env args with
  | .error e => return .error (.usage e)
  | .ok .help => return .ok .help
  | .ok (.run a) => match ← settings disk env a with
    | .error e => return .error e
    | .ok settings =>
      let service : Service := { settings }
      match service.refresh (← surroundings disk settings now) with
      | (.error e, _) => return .error (.scan e)
      | (.ok _, service) =>
        return .ok (if a.once then .listing (listing service) else .serving service)

end Program

end LayerAtlas
