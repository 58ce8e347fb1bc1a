import LayerAtlas.Catalog
import LayerAtlas.Request.Parameters
import LayerAtlas.Request.Values
import LayerAtlas.Time.Request

namespace LayerAtlas

open Text

/-- A map request as it is read, before any layer is looked up. -/
structure MapQuery where
  layers : List (String × String)
  version : String
  crs : String
  format : String
  bboxText : String
  bbox : BoundingBox
  width : Nat
  height : Nat
  transparent : Bool
  /-- The times asked for; none stand for the current time of each layer. -/
  times : List Instant
  reference : Option Instant
  elevation : Option Int
  interval : Option (Int × Int)

namespace Request

def given (value : Option String) : Option String := value.filter fun v => trim v ≠ ""

def required (name : String) (value : Option String) : Except RequestError String :=
  match given value with
  | some v => .ok v
  | none => .error (.missingParameter name)

def requiredDimension (name : String) (value : Option String) : Except RequestError String :=
  match given value with
  | some v => .ok v
  | none => .error (.missingDimensionValue name)

def readOptional {α : Type} (read : String → Except RequestError α) :
    Option String → Except RequestError (Option α)
  | none => .ok none
  | some v => (read v).map some

def readInteger (name text : String) : Except RequestError Int :=
  match int32 (trim text) with
  | some n => .ok n
  | none => .error (.invalidDimensionValue (name ++ " '" ++ text ++ "' is not an integer"))

def readInterval : Option String → Option String → Except RequestError (Option (Int × Int))
  | none, none => .ok none
  | some _, none => .error (.missingDimensionValue "DIM_INTERVAL_END")
  | none, some _ => .error (.missingDimensionValue "DIM_INTERVAL_START")
  | some start, some stop => do
    let start ← readInteger "DIM_INTERVAL_START" start
    let stop ← readInteger "DIM_INTERVAL_END" stop
    return some (start, stop)

/-- The instants of a list of times at `now`; the lone word `current` gives none. -/
def readTimes (now : Instant) : Option String → Except RequestError (List Instant)
  | none => .ok []
  | some text => match TimeSpec.readList text with
    | .error e => .error (.ofTime e)
    | .ok [.current] => .ok []
    | .ok specs => (TimeSpec.expandAll now specs).mapError .ofTime

def readBoundingBox (text : String) : Except RequestError BoundingBox :=
  (BoundingBox.read text).mapError fun e => .invalidParameter "BBOX" e.message

def readInstant (text : String) : Except RequestError Instant :=
  (Timestamp.read text).mapError .ofTime

end Request

open Request

def MapQuery.read (now : Instant) (p : Parameters MapParameter) :
    Except RequestError MapQuery := do
  let layers ← pairLayers (p .layers) (p .styles)
  let version ← required "VERSION" (p .version)
  let crs ← required "CRS" (p .crs)
  let format ← required "FORMAT" (p .format)
  let bboxText ← requiredDimension "BBOX" (p .bbox)
  let width ← requiredDimension "WIDTH" (p .width) >>= readSize "WIDTH"
  let height ← requiredDimension "HEIGHT" (p .height) >>= readSize "HEIGHT"
  let transparent ← readTransparent (p .transparent)
  let bbox ← readBoundingBox bboxText
  let times ← readTimes now (p .time)
  let reference ← readOptional readInstant (p .referenceTime)
  let elevation ← readOptional (readInteger "ELEVATION") (p .elevation)
  let interval ← readInterval (p .intervalStart) (p .intervalEnd)
  return {
    layers, version, crs, format, bboxText, bbox, width, height, transparent, times, reference,
    elevation, interval }

namespace Request

def ensure (condition : Bool) (e : RequestError) : Except RequestError Unit :=
  if condition then .ok () else .error e

def ensureNone {α : Type} (wrong : Option α) (e : α → RequestError) :
    Except RequestError Unit :=
  match wrong with
  | some a => .error (e a)
  | none => .ok ()

def ensureVersion (s : Settings) (version : String) : Except RequestError Unit :=
  ensure (s.supportsVersion version) (.unsupportedVersion version)

def ensureFormat (s : Settings) (format : String) : Except RequestError Unit :=
  ensure (s.supportsFormat format) (.unsupportedFormat format)

def unavailable (what value layer : String) : RequestError :=
  .invalidDimensionValue (what ++ " " ++ value ++ " is not available for layer " ++ layer)

def showInstant (t : Instant) : String := Timestamp.writeExact "+00:00" t

def refusing {α : Type} (check : Except RequestError α) : Except Failure α :=
  check.mapError .refused

def answered {α : Type} : Answer α → Except Failure α
  | some a => .ok a
  | none => .error .stopped

def ensureTimes (present : Instant) (q : MapQuery) (name : String) (l : Layer) :
    Except Failure Unit :=
  q.times.forM fun t => do
    let accepted ← answered (l.acceptsTime present q.reference t)
    refusing (ensure accepted (unavailable "Time" (showInstant t) name))

def findLayer (g : Generation) (present : Instant) (q : MapQuery) (name style : String) :
    Except Failure Layer :=
  match g.find? name with
  | none => .error (.refused (.layerNotFound name))
  | some l => do
    refusing (ensure (l.acceptsStyle style) (.styleNotFound name style))
    refusing (ensure (l.acceptsCrs q.crs) (.invalidCrs name q.crs))
    refusing (ensureNone (q.reference.filter fun r => !l.acceptsReference r) fun r =>
      unavailable "Reference time" (showInstant r) name)
    ensureTimes present q name l
    refusing (ensureNone (q.elevation.filter fun v => !l.acceptsElevation v) fun v =>
      unavailable "Elevation" (showInt v) name)
    return l

def ensureInterval (interval : Option (Int × Int)) (layers : List Layer) :
    Except RequestError Unit :=
  match interval with
  | none => .ok ()
  | some (start, stop) =>
    ensureNone (layers.find? fun l => !l.acceptsInterval start stop) fun l =>
      unavailable "Interval" (showInt start ++ "/" ++ showInt stop) l.name

/-- The style that is drawn: an empty name stands for the default. -/
def styleOrDefault (style : String) : String := if style = "" then defaultStyle else style

end Request

def Layer.currentTime (l : Layer) (present : Instant) (reference : Option Instant) :
    Except Failure (Option Instant) :=
  if ¬ l.isTemporal then .ok none
  else if ¬ l.hasCurrent then
    .error (.refused (.invalidDimensionValue ("Layer " ++ l.name ++ " has no current time")))
  else answered (l.lastTime? present reference)

structure MapLayer where
  layer : Layer
  style : String
  /-- The instant that `current` means, if no times are asked for. -/
  current : Option Instant

structure MapRequest where
  version : String
  layers : List MapLayer
  crs : String
  bbox : BoundingBox
  width : Nat
  height : Nat
  format : String
  transparent : Bool
  times : List Instant
  reference : Option Instant
  elevation : Option Int
  interval : Option (Int × Int)

namespace MapRequest

def usesCurrent (r : MapRequest) : Bool := r.times = []

def resolve (present : Instant) (q : MapQuery) (style : String) (l : Layer) :
    Except Failure MapLayer := do
  let current ← if q.times = [] then l.currentTime present q.reference else .ok none
  return { layer := l, style := styleOrDefault style, current }

def ofQuery (s : Settings) (g : Generation) (present : Instant) (q : MapQuery) :
    Except Failure MapRequest := do
  refusing (ensureVersion s q.version)
  let found ← q.layers.mapM fun (name, style) => findLayer g present q name style
  refusing (ensureFormat s q.format)
  refusing (ensure q.bbox.isValid (.invalidBbox q.bboxText))
  refusing (ensureInterval q.interval found)
  let layers ← (q.layers.zip found).mapM fun (pair, l) => resolve present q pair.2 l
  return {
    version := q.version, layers, crs := q.crs, bbox := q.bbox
    width := q.width, height := q.height
    format := q.format, transparent := q.transparent, times := q.times, reference := q.reference
    elevation := q.elevation, interval := q.interval }

/-- Checks the parameters of a request; `now` is what `current` means in a list of times. -/
def validate (s : Settings) (g : Generation) (now present : Instant)
    (p : Parameters MapParameter) :
    Except Failure MapRequest :=
  refusing (MapQuery.read now p) >>= ofQuery s g present

end MapRequest

end LayerAtlas
