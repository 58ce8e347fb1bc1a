import LayerAtlas.Json.Reading
import LayerAtlas.Text.Ascii

namespace LayerAtlas

open Text

/-- The parameters of one kind of request, in their order. -/
class Parameter (κ : Type) where
  all : List κ
  /-- The parameter that a key of a query stands for, the key being in capitals. -/
  ofKey : String → Option κ
  /-- The keys of a record that stand for a parameter. -/
  keys : κ → List String

abbrev Parameters (κ : Type) := κ → Option String

namespace Parameters

variable {κ : Type} [DecidableEq κ] [Parameter κ]

def set (parameters : Parameters κ) (p : κ) (value : String) : Parameters κ :=
  fun q => if q = p then some value else parameters q

def addPair (parameters : Parameters κ) (pair : String × String) : Parameters κ :=
  match Parameter.ofKey (upper pair.1) with
  | some p => parameters.set p pair.2
  | none => parameters

def ofPairs (pairs : List (String × String)) : Parameters κ := pairs.foldl addPair fun _ => none

def ofSlot (record : Record Json.Node) (p : κ) (place : Nat) : Option (κ × Option String) := do
  let slot ← record.slot place (Parameter.keys p)
  let value ← slot.optional Document.asText
  return (p, value)

def ofDocument (node : Json.Node) : Option (Parameters κ) := do
  let record ← Record.ofNode? (Parameter.all : List κ).length node
  let values ← (Parameter.all : List κ).zipIdx.mapM fun (p, place) => ofSlot record p place
  return fun p => (values.lookup p).join

def ofJson (text : String) : Option (Parameters κ) := (Json.read text).bind ofDocument

end Parameters

inductive MapParameter where
  | version
  | layers
  | styles
  | crs
  | bbox
  | width
  | height
  | format
  | transparent
  | time
  | referenceTime
  | elevation
  | intervalStart
  | intervalEnd
  deriving DecidableEq, Repr

instance : Parameter MapParameter where
  all := [.version, .layers, .styles, .crs, .bbox, .width, .height, .format,
    .transparent, .time, .referenceTime, .elevation, .intervalStart, .intervalEnd]
  ofKey
    | "VERSION" => some .version
    | "LAYERS" => some .layers
    | "STYLES" => some .styles
    | "CRS" | "SRS" => some .crs
    | "BBOX" => some .bbox
    | "WIDTH" => some .width
    | "HEIGHT" => some .height
    | "FORMAT" => some .format
    | "TRANSPARENT" => some .transparent
    | "TIME" => some .time
    | "REFERENCE_TIME" | "ORIGINTIME" => some .referenceTime
    | "ELEVATION" => some .elevation
    | "DIM_INTERVAL_START" => some .intervalStart
    | "DIM_INTERVAL_END" => some .intervalEnd
    | _ => none
  keys
    | .version => ["VERSION", "version"]
    | .layers => ["LAYERS", "layers"]
    | .styles => ["STYLES", "styles"]
    | .crs => ["CRS", "SRS", "crs", "srs"]
    | .bbox => ["BBOX", "bbox"]
    | .width => ["WIDTH", "width"]
    | .height => ["HEIGHT", "height"]
    | .format => ["FORMAT", "format"]
    | .transparent => ["TRANSPARENT", "transparent"]
    | .time => ["TIME", "time"]
    | .referenceTime => ["REFERENCE_TIME", "reference_time", "ORIGINTIME", "origintime"]
    | .elevation => ["ELEVATION", "elevation"]
    | .intervalStart => ["DIM_INTERVAL_START", "dim_interval_start"]
    | .intervalEnd => ["DIM_INTERVAL_END", "dim_interval_end"]

inductive LegendParameter where
  | version
  | layer
  | style
  | format
  | width
  | height
  deriving DecidableEq, Repr

instance : Parameter LegendParameter where
  all := [.version, .layer, .style, .format, .width, .height]
  ofKey
    | "VERSION" => some .version
    | "LAYER" => some .layer
    | "STYLE" => some .style
    | "FORMAT" => some .format
    | "WIDTH" => some .width
    | "HEIGHT" => some .height
    | _ => none
  keys
    | .version => ["VERSION", "version"]
    | .layer => ["LAYER", "layer"]
    | .style => ["STYLE", "style"]
    | .format => ["FORMAT", "format"]
    | .width => ["WIDTH", "width"]
    | .height => ["HEIGHT", "height"]

end LayerAtlas
