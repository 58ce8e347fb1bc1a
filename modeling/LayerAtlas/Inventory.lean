import LayerAtlas.Definition
import LayerAtlas.Files.Entry
import LayerAtlas.Yaml.Reading

namespace LayerAtlas

open Document

inductive ReportedTimes where
  | none
  | timesteps (ts : List Instant)
  | runs (items : List (Instant × List Instant))
  | period (start stop : Instant) (minutes : Int)

structure Metadata where
  bbox : BoundingBox
  times : ReportedTimes
  levels : Option (LevelType × List Int)

inductive ProbeError where
  | noProbe (kind : LayerKind)
  | missingKey (key : String)
  | notFound (key : String)
  | unavailable
  deriving DecidableEq, Repr

def ProbeError.message : ProbeError → String
  | noProbe kind => "No probe registered for " ++ kind.name ++ " layers"
  | missingKey key => "Definition does not name a " ++ key
  | notFound key => "Backend has no metadata for '" ++ key ++ "'"
  | unavailable => "Backend unavailable"

/-- A period of observations; an open one ends at the present. -/
structure Period where
  start : Instant
  stop : Option Instant
  minutes : Int

structure InventoryEntry where
  bbox : BoundingBox := .world
  timesteps : List Instant := []
  runs : List (Instant × List Instant) := []
  period : Option Period := none
  levels : Option (LevelType × List Int) := none

namespace InventoryEntry

/-- The metadata at a point of time: a period counts before runs, and runs before times. -/
def toMetadata (e : InventoryEntry) (now : Instant) : Metadata where
  bbox := e.bbox
  times := match e.period with
    | some p => .period p.start (p.stop.getD now) p.minutes
    | none =>
      if e.runs ≠ [] then .runs e.runs
      else if e.timesteps ≠ [] then .timesteps e.timesteps
      else .none
  levels := e.levels

variable {ν : Type} [Document ν]

def readInstant (node : ν) : Option Instant :=
  (asText node).bind fun s => Timestamp.ofLooseRfc3339 s.toList

def readRun (node : ν) : Option (Instant × List Instant) := do
  let record ← Record.ofNode? 2 node
  let reference ← (← record.slot 0 ["reference_time"]).required readInstant
  let timesteps ← (← record.slot 1 ["timesteps"]).required (asList readInstant)
  return (reference, timesteps)

def readPeriod (node : ν) : Option Period := do
  let record ← Record.ofNode? 3 node
  let start ← (← record.slot 0 ["start"]).required readInstant
  let stop ← (← record.slot 1 ["end"]).orElse none (asOption readInstant)
  let minutes ← (← record.slot 2 ["step_minutes"]).required asInt64
  return { start, stop, minutes }

def readLevels (node : ν) : Option (LevelType × List Int) := do
  let record ← Record.ofNode? 2 node
  let levelType ← (← record.slot 0 ["level_type"]).required LevelType.ofNode?
  let values ← (← record.slot 1 ["values"]).required (asList asInt32)
  return (levelType, values)

def ofNode? (node : ν) : Option InventoryEntry := do
  let record ← Record.ofNode? 5 node
  let bbox ← (← record.slot 0 ["bbox"]).orElse .world BoundingBox.ofNode?
  let timesteps ← (← record.slot 1 ["timesteps"]).orElse [] (asList readInstant)
  let runs ← (← record.slot 2 ["runs"]).orElse [] (asList readRun)
  let period ← (← record.slot 3 ["period"]).orElse none (asOption readPeriod)
  let levels ← (← record.slot 4 ["levels"]).orElse none (asOption readLevels)
  return { bbox, timesteps, runs, period, levels }

end InventoryEntry

structure Inventory where
  producers : List (String × InventoryEntry) := []
  observations : List (String × InventoryEntry) := []
  tables : List (String × InventoryEntry) := []

namespace Inventory

def ofNode? {ν : Type} [Document ν] (node : ν) : Option Inventory := do
  let record ← Record.ofNode? 3 node
  let producers ← (← record.slot 0 ["producers"]).orElse [] (asMap InventoryEntry.ofNode?)
  let observations ← (← record.slot 1 ["observations"]).orElse [] (asMap InventoryEntry.ofNode?)
  let tables ← (← record.slot 2 ["tables"]).orElse [] (asMap InventoryEntry.ofNode?)
  return { producers, observations, tables }

def ofText? (text : String) : Option Inventory := (Yaml.Place.ofText? text).bind ofNode?

def find (section_ : List (String × InventoryEntry)) (now : Instant) (what : String) :
    Option String → Except ProbeError Metadata
  | none => .error (.missingKey what)
  | some key => match section_.lookup key with
    | some entry => .ok (entry.toMetadata now)
    | none => .error (.notFound key)

/-- The metadata for a definition. A map need not be listed; a forecast that names no producer
is one of the default producer. -/
def metadata (inventory : Inventory) (defaultProducer : Option String) (now : Instant)
    (kind : LayerKind) (d : Definition) : Except ProbeError Metadata :=
  match kind with
  | .map =>
    match d.anyTable.bind fun table => inventory.tables.lookup table with
    | some entry => .ok (entry.toMetadata now)
    | none => .ok { bbox := .world, times := .none, levels := none }
  | .vectorStore => find inventory.tables now "table" d.anyTable
  | .stationObservation => find inventory.observations now "producer" d.anyProducer
  | .griddedForecast | .rawModelOutput =>
    find inventory.producers now "producer" (d.anyProducer.or defaultProducer)

def probe (serves : LayerKind → Bool) (inventory : Inventory) (defaultProducer : Option String)
    (now : Instant) (kind : LayerKind) (d : Definition) : Except ProbeError Metadata :=
  if serves kind then inventory.metadata defaultProducer now kind d else .error (.noProbe kind)

end Inventory

structure InventoryCache where
  last : Option (Int × Inventory) := none

namespace InventoryCache

def readFile (file : Option FileState) : Except ProbeError Inventory :=
  match file.bind fun f => f.text.bind Inventory.ofText? with
  | some inventory => .ok inventory
  | none => .error .unavailable

def load (file : Option FileState) (cache : InventoryCache) :
    Except ProbeError Inventory × InventoryCache :=
  match file with
  | none => (.error .unavailable, cache)
  | some f =>
    let fresh := cache.last.filter fun entry => entry.1 = f.modified
    match fresh with
    | some (_, inventory) => (.ok inventory, cache)
    | none => match readFile (some f) with
      | .ok inventory => (.ok inventory, { last := some (f.modified, inventory) })
      | .error e => (.error e, cache)

end InventoryCache

end LayerAtlas
