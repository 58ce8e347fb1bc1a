import LayerAtlas.Inventory
import LayerAtlas.Scan
import LayerAtlas.Settings

namespace LayerAtlas

inductive BuildError where
  | definition (e : DefinitionError)
  | probe (layer : String) (e : ProbeError)
  | unusable (layer reason : String)
  deriving DecidableEq, Repr

def BuildError.message : BuildError → String
  | definition e => e.message
  | probe layer e => "Metadata probe failed for " ++ layer ++ ": " ++ e.message
  | unusable layer reason => "Layer " ++ layer ++ " is not usable: " ++ reason

namespace Layer

def nameOf (source : Source) (d : Definition) : String := d.name.getD source.defaultName

/-- The reference systems of a layer: those enabled for the service and for the layer, less
those disabled for the layer, and its own. -/
def crsOf (references : List Reference) (d : Definition) : CrsSet :=
  let enabled :=
    d.crsEnable.foldl (fun s id => s.enable id references) (.ofReferences references)
  let kept := d.crsDisable.foldl CrsSet.disable enabled
  match d.ownCrs with
  | some own => if "EPSG:".toList.isPrefixOf own.toList then kept.insert own else kept
  | none => kept

def legendResource (layer : String) : String :=
  "?service=WMS&request=GetLegendGraphic&version=1.3.0&sld_version=1.1.0&style=" ++
    defaultStyle ++ "&format=image/png&layer=" ++ layer

/-- The styles of a layer: one with the legend of another layer, those listed, or the
default. -/
def stylesOf (name : String) (d : Definition) : List Style :=
  match d.legendLayer with
  | some legend =>
    [{ Style.defaultFor name with
        legendUrl := some { onlineResource := some (legendResource legend) } }]
  | none => if d.styles = [] then [Style.defaultFor name] else d.styles

def runsOf (items : List (Instant × List Instant)) : List (Instant × TimeDimension) :=
  items.filterMap fun (reference, ts) =>
    (TimeDimension.ofInstants? ts).map fun dimension => (reference, dimension)

/-- The dimensions of a layer. Observed instants are never made an interval, the runs of raw
output are joined, and a step in the definition replaces the step of a period. -/
def dimensionsOf (kind : LayerKind) (d : Definition) :
    ReportedTimes → Except TimeError (Option TimeAxis)
  | .none => .ok none
  | .timesteps ts =>
    let dimension :=
      if kind = .stationObservation then (Steps.ofList? ts).map .steps
      else TimeDimension.ofInstants? ts
    .ok (dimension.map TimeAxis.single)
  | .runs items =>
    if kind = .rawModelOutput then
      .ok ((TimeDimension.ofInstants? (items.flatMap Prod.snd)).map TimeAxis.single)
    else .ok (TimeAxis.ofRuns? (runsOf items))
  | .period start stop minutes =>
    (TimeInterval.make start stop (d.timestep.getD minutes)).map fun i =>
      some (.single (.ofInterval i))

def axisOf (kind : LayerKind) (d : Definition) (times : ReportedTimes) :
    Except TimeError (Option TimeAxis) :=
  (dimensionsOf kind d times).map fun axis =>
    axis.map fun a => { a with endsAtPresent := kind = .stationObservation }

def elevationOf (levels : Option (LevelType × List Int)) : Option Elevation :=
  (levels.bind fun (levelType, values) => Elevation.ofList? levelType values).filter
    Elevation.isPublished

def assemble (references : List Reference) (source : Source) (d : Definition) (kind : LayerKind)
    (metadata : Metadata) (now : Instant) (time : Option TimeAxis) : Layer where
  kind
  name := nameOf source d
  title := d.title.getD (nameOf source d)
  summary := d.summary
  customer := source.customer
  productFile := source.path
  hidden := d.hidden
  queryable := d.queryable
  isOpaque := d.isOpaque
  cascaded := d.cascaded
  keywords := Ascending.ofList d.keywords
  crs := crsOf references d
  styles := stylesOf (nameOf source d) d
  bbox := metadata.bbox
  time
  timeDisabled := d.disableTime
  elevation := elevationOf metadata.levels
  intervals := IntervalPairs.ofList? d.intervals
  legend := d.legend
  probedAt := now
  updateInterval := d.updateInterval
  modified := source.modified

def build (references : List Reference) (source : Source) (d : Definition) (kind : LayerKind)
    (metadata : Metadata) (now : Instant) : Except BuildError Layer :=
  let name := nameOf source d
  if ¬ metadata.bbox.isValid then
    .error (.unusable name "backend reported an empty bounding box")
  else match axisOf kind d metadata.times with
    | .error e => .error (.unusable name e.message)
    | .ok time =>
      if time = none ∧ ¬ kind.mayBeTimeless ∧ ¬ d.disableTime then
        .error (.unusable name "backend reported no valid times")
      else .ok (assemble references source d kind metadata now time)

def definitionOf (settings : Settings) (source : Source) :
    Except DefinitionError (Definition × LayerKind) :=
  match source.text with
  | none => .error (.unreadable source.path)
  | some text => match Definition.ofText? text with
    | none => .error (.malformed source.path)
    | some d => (d.kind source.path settings.observationProducers).map fun kind => (d, kind)

def create (settings : Settings) (probe : LayerKind → Definition → Except ProbeError Metadata)
    (now : Instant) (source : Source) : Except BuildError Layer :=
  match definitionOf settings source with
  | .error e => .error (.definition e)
  | .ok (d, kind) => match probe kind d with
    | .error e => .error (.probe (nameOf source d) e)
    | .ok metadata => build settings.references source d kind metadata now

end Layer

end LayerAtlas
