import LayerAtlas.Records
import LayerAtlas.Yaml.Reading

namespace LayerAtlas

open Document Text

inductive Layout where
  | flat
  | recursive
  | recursiveTimes
  deriving DecidableEq, Repr

namespace Layout

def name : Layout → String
  | flat => "flat"
  | recursive => "recursive"
  | recursiveTimes => "recursivetimes"

def ofName? (name : String) : Option Layout :=
  ([flat, recursive, recursiveTimes] : List Layout).find? fun l => l.name = name

def read (text : String) : Option Layout := ofName? (lower text)

end Layout

structure Settings where
  root : String := "config/wms"
  /-- Seconds between refreshes. -/
  pollInterval : Nat := 60
  disableUpdates : Bool := false
  versions : List String := ["1.3.0"]
  mapFormats : List String := ["image/png", "image/svg+xml", "application/pdf", "cnf"]
  layout : Layout := .flat
  references : List Reference := Reference.defaults
  observationProducers : List String := []
  defaultProducer : Option String := none
  definitionSuffix : String := ".json"
  inventoryFile : Option String := none
  probeConcurrency : Nat := 8

inductive SettingsError where
  | zeroPollInterval
  | zeroProbeConcurrency
  | noVersions
  | emptySuffix
  deriving DecidableEq, Repr

def SettingsError.message (e : SettingsError) : String :=
  "Invalid configuration: " ++ match e with
    | zeroPollInterval => "poll_interval_secs must be > 0"
    | zeroProbeConcurrency => "probe_concurrency must be > 0"
    | noVersions => "supported_versions must not be empty"
    | emptySuffix => "definition_suffix must not be empty"

namespace Settings

def ofNode? {ν : Type} [Document ν] (node : ν) : Option Settings := do
  let d : Settings := {}
  let record ← Record.ofNode? 12 node
  let root ← (← record.slot 0 ["root_dir"]).orElse d.root asText
  let pollInterval ← (← record.slot 1 ["poll_interval_secs"]).orElse d.pollInterval asNat64
  let disableUpdates ← (← record.slot 2 ["disable_updates"]).orElse d.disableUpdates asBool
  let versions ← (← record.slot 3 ["supported_versions"]).orElse d.versions (asList asText)
  let mapFormats ← (← record.slot 4 ["map_formats"]).orElse d.mapFormats (asList asText)
  let layout ← (← record.slot 5 ["layout"]).orElse d.layout fun n =>
    (asChoice n).bind Layout.ofName?
  let references ← (← record.slot 6 ["supported_references"]).orElse d.references
    (asList Reference.ofNode?)
  let producers ← (← record.slot 7 ["observation_producers"]).orElse [] (asList asText)
  let defaultProducer ← (← record.slot 8 ["default_producer"]).orElse none (asOption asText)
  let definitionSuffix ← (← record.slot 9 ["definition_suffix"]).orElse
    d.definitionSuffix asText
  let inventoryFile ← (← record.slot 10 ["inventory_file"]).orElse none (asOption asText)
  let probeConcurrency ← (← record.slot 11 ["probe_concurrency"]).orElse
    d.probeConcurrency asNat64
  return {
    root, pollInterval, disableUpdates, versions, mapFormats, layout, references,
    observationProducers := Ascending.ofList producers, defaultProducer, definitionSuffix,
    inventoryFile, probeConcurrency }

def ofText? (text : String) : Option Settings := (Yaml.Place.ofText? text).bind ofNode?

def variableNames : List String :=
  ["WMS_CATALOG_ROOT", "WMS_CATALOG_POLL_INTERVAL_SECS", "WMS_CATALOG_DISABLE_UPDATES",
    "WMS_CATALOG_INVENTORY"]

def isOn (v : String) : Bool := sameLetters v "true" || v = "1"

/-- Settings with what the environment says instead; a number that cannot be read says
nothing. -/
def withEnvironment (env : String → Option String) (s : Settings) : Settings :=
  { s with
    root := (env "WMS_CATALOG_ROOT").getD s.root
    pollInterval :=
      ((env "WMS_CATALOG_POLL_INTERVAL_SECS").bind (boundedNat maxNat64)).getD s.pollInterval
    disableUpdates := ((env "WMS_CATALOG_DISABLE_UPDATES").map isOn).getD s.disableUpdates
    inventoryFile := (env "WMS_CATALOG_INVENTORY").or s.inventoryFile }

def check (s : Settings) : Except SettingsError Settings :=
  if s.pollInterval = 0 then .error .zeroPollInterval
  else if s.probeConcurrency = 0 then .error .zeroProbeConcurrency
  else if s.versions = [] then .error .noVersions
  else if s.definitionSuffix = "" then .error .emptySuffix
  else .ok s

def supportsVersion (s : Settings) (version : String) : Bool := s.versions.elem version

def supportsFormat (s : Settings) (format : String) : Bool :=
  s.mapFormats.any fun f => sameLetters f format

end Settings

end LayerAtlas
