import LayerAtlas.Crs
import LayerAtlas.Elevation
import LayerAtlas.Json.Value
import LayerAtlas.Time.Axis

namespace LayerAtlas

open Text

inductive LayerKind where
  | map
  | vectorStore
  | griddedForecast
  | stationObservation
  | rawModelOutput
  deriving DecidableEq, Repr

namespace LayerKind

def all : List LayerKind :=
  [map, vectorStore, griddedForecast, stationObservation, rawModelOutput]

def name : LayerKind → String
  | map => "map"
  | vectorStore => "vector_store"
  | griddedForecast => "gridded_forecast"
  | stationObservation => "station_observation"
  | rawModelOutput => "raw_model_output"

def mayBeTimeless : LayerKind → Bool
  | map | vectorStore => true
  | _ => false

end LayerKind

structure LegendUrl where
  format : String := "image/png"
  width : Option Nat := none
  height : Option Nat := none
  onlineResource : Option String := none
  deriving DecidableEq, Repr

structure Style where
  name : String
  title : Option String := none
  summary : Option String := none
  legendUrl : Option LegendUrl := none
  deriving DecidableEq, Repr

def defaultStyle : String := "default"

def Style.defaultFor (layer : String) : Style :=
  { name := defaultStyle, title := some (layer ++ " default style") }

structure Layer where
  kind : LayerKind
  name : String
  title : String
  summary : Option String
  customer : String
  productFile : String
  hidden : Bool
  queryable : Bool
  isOpaque : Bool
  cascaded : Bool
  keywords : List String
  crs : CrsSet
  styles : List Style
  bbox : BoundingBox
  time : Option TimeAxis
  timeDisabled : Bool
  elevation : Option Elevation
  intervals : Option IntervalPairs
  legend : List Json.Value
  probedAt : Instant
  /-- For how many seconds the metadata may be used again. -/
  updateInterval : Option Nat
  modified : Option Int

namespace Layer

/-- What stands before the last colon of the name. -/
def nameSpace (l : Layer) : String :=
  if ':' ∈ l.name.toList then
    String.ofList ((l.name.toList.reverse.dropWhile (· ≠ ':')).tail.reverse)
  else ""

def timeAxis? (l : Layer) : Option TimeAxis := if l.timeDisabled then none else l.time

def isTemporal (l : Layer) : Bool := l.timeAxis?.isSome

/-- A style of the layer, or its default in any case, or an empty name. -/
def acceptsStyle (l : Layer) (style : String) : Bool :=
  style = "" || sameLetters style defaultStyle || l.styles.any fun s => s.name = style

def acceptsCrs (l : Layer) (crs : String) : Bool := l.crs.contains crs

def acceptsTime (l : Layer) (present : Instant) (reference : Option Instant) (t : Instant) :
    Answer Bool :=
  match l.timeAxis? with
  | none => some true
  | some a => a.contains present reference t

def acceptsReference (l : Layer) (reference : Instant) : Bool :=
  l.timeAxis?.all fun a => a.hasReference reference

def acceptsElevation (l : Layer) (value : Int) : Bool :=
  l.elevation.all fun e => e.contains value

def acceptsInterval (l : Layer) (start stop : Int) : Bool :=
  l.intervals.all fun p => p.contains start stop

def hasCurrent (l : Layer) : Bool := l.timeAxis?.all TimeAxis.hasCurrent

def lastTime? (l : Layer) (present : Instant) (reference : Option Instant) :
    Answer (Option Instant) :=
  match l.timeAxis? with
  | none => some none
  | some a => a.last? present reference

def timeExtent? (l : Layer) : Option String := l.timeAxis?.map TimeAxis.extent

/-- Metadata that were asked for less than the update interval ago, and not in the future. -/
def isFresh (l : Layer) (now : Instant) : Bool :=
  l.updateInterval.any fun limit =>
    let age := (now.since l.probedAt).wholeSeconds
    decide (0 ≤ age ∧ age < limit)

end Layer

end LayerAtlas
