
namespace LayerAtlas

structure Arguments where
  config : Option String := none
  root : Option String := none
  inventory : Option String := none
  logLevel : Option String := none
  once : Bool := false
  deriving DecidableEq, Repr

inductive UsageError where
  | unexpected (argument : String)
  | repeated (option : String)
  | missingValue (option : String)
  | unwantedValue (option : String)
  deriving DecidableEq, Repr

def UsageError.message : UsageError → String
  | unexpected argument => "unexpected argument '" ++ argument ++ "' found"
  | repeated option => "the argument '" ++ option ++ "' cannot be used multiple times"
  | missingValue option => "a value is required for '" ++ option ++ "' but none was supplied"
  | unwantedValue option =>
    "unexpected value for '" ++ option ++ "' found; no more were expected"

inductive ValueOption where
  | config
  | root
  | inventory
  | logLevel
  deriving DecidableEq, Repr

namespace ValueOption

def all : List ValueOption := [config, root, inventory, logLevel]

def name : ValueOption → String
  | config => "--config"
  | root => "--root"
  | inventory => "--inventory"
  | logLevel => "--log-level"

def value (a : Arguments) : ValueOption → Option String
  | config => a.config
  | root => a.root
  | inventory => a.inventory
  | logLevel => a.logLevel

def put (a : Arguments) (v : String) : ValueOption → Arguments
  | config => { a with config := some v }
  | root => { a with root := some v }
  | inventory => { a with inventory := some v }
  | logLevel => { a with logLevel := some v }

def set (a : Arguments) (v : String) (o : ValueOption) : Except UsageError Arguments :=
  if v = "" ∧ o ≠ logLevel then .error (.missingValue o.name)
  else if (o.value a).isSome then .error (.repeated o.name)
  else .ok (o.put a v)

end ValueOption

inductive Command where
  | help
  | run (a : Arguments)
  deriving DecidableEq, Repr

inductive Token where
  | help
  | once
  | option (o : ValueOption) (value : Option String)
  | wrong (e : UsageError)
  deriving DecidableEq, Repr

namespace Token

def ofLong (name : String) (value : Option String) : Token :=
  match ValueOption.all.find? fun o => o.name = name with
  | some o => option o value
  | none =>
    if name = "--help" then if value.isSome then wrong (.unwantedValue name) else help
    else if name = "--once" then if value.isSome then wrong (.unwantedValue name) else once
    else wrong (.unexpected name)

def ofArgument (argument : String) : Token :=
  match argument.toList with
  | '-' :: '-' :: _ =>
    let name := argument.toList.takeWhile (· ≠ '=')
    ofLong (String.ofList name) (match argument.toList.dropWhile (· ≠ '=') with
      | [] => none
      | _ :: value => some (String.ofList value))
  | ['-', 'c'] => option .config none
  | '-' :: 'c' :: '=' :: value => option .config (some (String.ofList value))
  | '-' :: 'c' :: value => option .config (some (String.ofList value))
  | '-' :: 'h' :: _ => help
  | _ => wrong (.unexpected argument)

def isValue (argument : String) : Bool := argument = "-" || argument.toList.head? ≠ some '-'

end Token

namespace Arguments

def readFrom (a : Arguments) : List String → Except UsageError Command
  | [] => .ok (.run a)
  | "--" :: rest => match rest with
    | [] => .ok (.run a)
    | argument :: _ => .error (.unexpected argument)
  | argument :: rest =>
    match Token.ofArgument argument with
    | .wrong e => .error e
    | .help => .ok .help
    | .once => if a.once then .error (.repeated argument)
        else readFrom { a with once := true } rest
    | .option o (some v) => match o.set a v with
      | .error e => .error e
      | .ok a => readFrom a rest
    | .option o none => match rest with
      | [] => .error (.missingValue o.name)
      | v :: rest =>
        if Token.isValue v then match o.set a v with
          | .error e => .error e
          | .ok a => readFrom a rest
        else .error (.missingValue o.name)

def configVariable : String := "WMS_CATALOG_CONFIG"

/-- Reads arguments. Where they name no settings file, the environment may do so. -/
def read (environment : String → Option String) (args : List String) :
    Except UsageError Command :=
  match readFrom {} args with
  | .error e => .error e
  | .ok .help => .ok .help
  | .ok (.run a) => match a.config, environment configVariable with
    | none, some v => (ValueOption.config.set a v).map .run
    | _, _ => .ok (.run a)

end Arguments

end LayerAtlas
