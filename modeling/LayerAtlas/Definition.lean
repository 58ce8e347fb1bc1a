import LayerAtlas.Json.Reading
import LayerAtlas.Records

namespace LayerAtlas

open Document Json

inductive DefinitionError where
  | unreadable (path : String)
  | malformed (path : String)
  | unknownKind (path : String)
  | unsupportedType (path layerType : String)
  deriving DecidableEq, Repr

def DefinitionError.message : DefinitionError → String
  | unreadable path => "Failed to read " ++ path
  | malformed path => "Failed to parse " ++ path
  | unknownKind path => "Cannot determine layer type of " ++ path
  | unsupportedType path layerType => "Unsupported layer_type '" ++ layerType ++ "' in " ++ path

structure ViewLayer where
  layerType : Option String := none
  producer : Option String := none
  table : Option String := none
  deriving DecidableEq, Repr

structure Definition where
  name : Option String := none
  title : Option String := none
  summary : Option String := none
  hidden : Bool := false
  isOpaque : Bool := false
  queryable : Bool := false
  cascaded : Bool := false
  keywords : List String := []
  producer : Option String := none
  /-- Step of observations in minutes. -/
  timestep : Option Int := none
  source : Option String := none
  layerType : Option String := none
  table : Option String := none
  viewLayers : List ViewLayer := []
  legendLayer : Option String := none
  styles : List Style := []
  legend : List Value := []
  ownCrs : Option String := none
  crsEnable : List String := []
  crsDisable : List String := []
  intervals : List IntervalPair := []
  disableTime : Bool := false
  /-- For how many seconds metadata may be used again. -/
  updateInterval : Option Nat := none

namespace Definition

def readKeywords (node : Node) : Option (List String) :=
  match node with
  | .array items => items.mapM asText
  | node => (asText node).map fun k => [k]

/-- A list of legend settings; a single one need not be in a list, and null is none. -/
def readLegend (node : Node) : Option (List Value) :=
  (node.toValue? 126).map fun
    | .null => []
    | .array items => items
    | v => [v]

def readViewLayer (node : Node) : Option ViewLayer := do
  let record ← Record.ofNode? 3 node
  let layerType ← (← record.slot 0 ["layer_type"]).orElse none (asOption asText)
  let producer ← (← record.slot 1 ["producer"]).orElse none (asOption asText)
  let table ← (← record.slot 2 ["table"]).orElse none (asOption asText)
  return { layerType, producer, table }

def readView (node : Node) : Option (List ViewLayer) := do
  let record ← Record.ofNode? 1 node
  (← record.slot 0 ["layers"]).orElse [] (asList readViewLayer)

def readOwnCrs (node : Node) : Option (Option String) := do
  let record ← Record.ofNode? 1 node
  (← record.slot 0 ["crs"]).orElse none (asOption asText)

def readCrs (node : Node) : Option (List String × List String) := do
  let record ← Record.ofNode? 2 node
  let enable ← (← record.slot 0 ["enable"]).orElse [] (asList asText)
  let disable ← (← record.slot 1 ["disable"]).orElse [] (asList asText)
  return (enable, disable)

def ofNode? (node : Node) : Option Definition := do
  let record ← Record.ofNode? 22 node
  let name ← (← record.slot 0 ["name"]).orElse none (asOption asText)
  let title ← (← record.slot 1 ["title"]).orElse none (asOption asText)
  let summary ← (← record.slot 2 ["abstract"]).orElse none (asOption asText)
  let hidden ← (← record.slot 3 ["hidden"]).orElse false asBool
  let isOpaque ← (← record.slot 4 ["opaque"]).orElse false asBool
  let queryable ← (← record.slot 5 ["queryable"]).orElse false asBool
  let cascaded ← (← record.slot 6 ["cascaded"]).orElse false asBool
  let keywords ← (← record.slot 7 ["keyword"]).orElse [] readKeywords
  let producer ← (← record.slot 8 ["producer"]).orElse none (asOption asText)
  let timestep ← (← record.slot 9 ["timestep"]).orElse none (asOption asInt64)
  let source ← (← record.slot 10 ["source"]).orElse none (asOption asText)
  let layerType ← (← record.slot 11 ["layer_type"]).orElse none (asOption asText)
  let table ← (← record.slot 12 ["table"]).orElse none (asOption asText)
  let views ← (← record.slot 13 ["views"]).orElse [] (asList readView)
  let legendLayer ← (← record.slot 14 ["legend_url_layer"]).orElse none (asOption asText)
  let styles ← (← record.slot 15 ["styles"]).orElse [] (asList Style.ofNode?)
  let legend ← (← record.slot 16 ["legend"]).orElse [] readLegend
  let ownCrs ← (← record.slot 17 ["projection"]).orElse none readOwnCrs
  let (crsEnable, crsDisable) ← (← record.slot 18 ["crs"]).orElse ([], []) readCrs
  let intervals ← (← record.slot 19 ["intervals"]).orElse []
    (asList IntervalPair.ofNode?)
  let disableTime ← (← record.slot 20 ["disable_time_dimension"]).orElse false asBool
  let updateInterval ← (← record.slot 21 ["metadata_update_interval"]).orElse none
    (asOption asNat64)
  return {
    name, title, summary, hidden, isOpaque, queryable, cascaded, keywords, producer,
    timestep, source, layerType, table, viewLayers := views.flatten, legendLayer, styles,
    legend, ownCrs, crsEnable, crsDisable, intervals, disableTime, updateInterval }

def ofText? (text : String) : Option Definition := (Json.read text).bind ofNode?

def anyLayerType (d : Definition) : Option String :=
  d.layerType.or (d.viewLayers.findSome? ViewLayer.layerType)

def anyProducer (d : Definition) : Option String :=
  d.producer.or (d.viewLayers.findSome? ViewLayer.producer)

def anyTable (d : Definition) : Option String :=
  d.table.or (d.viewLayers.findSome? ViewLayer.table)

def readsRawGrid (d : Definition) : Bool := d.source = some "grid"

def griddedTypes : List String :=
  ["arrow", "isoband", "isoline", "number", "symbol", "streamline", "isolabel", "circle"]

/-- What the layer is drawn from. An observation producer at the root decides before the type
does. -/
def kind (d : Definition) (path : String) (observationProducers : List String) :
    Except DefinitionError LayerKind :=
  if d.producer.any fun p => observationProducers.elem p then .ok .stationObservation
  else match d.anyLayerType with
    | some t =>
      if t = "map" then .ok .map
      else if t = "postgis" ∨ t = "icemap" then .ok .vectorStore
      else if t ∈ griddedTypes then
        .ok (if d.readsRawGrid then .rawModelOutput else .griddedForecast)
      else .error (.unsupportedType path t)
    | none => if d.hidden then .ok .griddedForecast else .error (.unknownKind path)

end Definition

end LayerAtlas
