import LayerAtlas.Catalog
import LayerAtlas.Grants
import LayerAtlas.Pattern.Meaning
import LayerAtlas.RequestError
import LayerAtlas.Request.Parameters
import LayerAtlas.Request.Values

namespace LayerAtlas

open Text

inductive ListingError where
  | invalidLayout (text : String)
  | invalidPattern (pattern : String)
  deriving DecidableEq, Repr

def ListingError.message : ListingError → String
  | invalidLayout text =>
    "Invalid layout '" ++ text ++ "', expected flat, recursive or recursivetimes"
  | invalidPattern pattern => "Invalid namespace pattern '" ++ pattern ++ "'"

def Layout.ofText (text : String) : Except ListingError Layout :=
  match Layout.read text with
  | some l => .ok l
  | none => .error (.invalidLayout text)

inductive NameFilter where
  | pattern (text : String) (e : Pattern.Expr)
  | nameSpace (name : String)

namespace NameFilter

def patternText? (text : String) : Option String :=
  match text.toList with
  | '/' :: rest =>
    if 1 < rest.length ∧ rest.getLast? = some '/' then some (String.ofList rest.dropLast)
    else none
  | _ => none

/-- Reads `/pattern/` or else a namespace; blanks around it do not count. -/
def read (text : String) : Except ListingError NameFilter :=
  let text := trim text
  match patternText? text with
  | some p => match Pattern.read p with
    | some e => .ok (pattern p e)
    | none => .error (.invalidPattern p)
  | none => .ok (nameSpace text)

def allows (name : String) : NameFilter → Bool
  | pattern _ e => e.isMatch name
  | .nameSpace start =>
    let name := (lower name).toList
    let start := (lower start).toList
    name = start || (start ++ [':']).isPrefixOf name

end NameFilter

structure CapabilitiesRequest where
  key : Option String := none
  /-- Whether layers may be listed for a key. -/
  authenticate : Bool := false
  layout : Layout := .flat
  filter : Option NameFilter := none

structure Capabilities where
  generation : Nat
  layout : Layout
  layers : List Layer

namespace Capabilities

def lists (access : Access) (r : CapabilitiesRequest) (l : Layer) : Bool :=
  !l.hidden && r.filter.all (fun f => f.allows l.name) &&
    r.key.all fun key => access.authorizes key [l.name]

/-- The layers listed for a request: none for a key if layers may not be listed for keys. -/
def ofRequest (g : Generation) (access : Access) (r : CapabilitiesRequest) : Capabilities where
  generation := g.number
  layout := r.layout
  layers := if r.key.isSome ∧ ¬ r.authenticate then [] else g.layers.filter (lists access r)

end Capabilities

structure ElevationSummary where
  unit : Option String
  default : Int
  extent : String
  deriving DecidableEq, Repr

structure IntervalSummary where
  start : String
  stop : String
  default : Int × Int
  deriving DecidableEq, Repr

structure LayerSummary where
  name : String
  kind : LayerKind
  customer : String
  title : String
  bbox : BoundingBox
  crs : List String
  styles : List String
  time : Option String
  references : Nat
  elevation : Option ElevationSummary
  interval : Option IntervalSummary

def LayerSummary.ofLayer (l : Layer) : LayerSummary where
  name := l.name
  kind := l.kind
  customer := l.customer
  title := l.title
  bbox := l.bbox
  crs := l.crs.ids
  styles := l.styles.map Style.name
  time := l.timeExtent?
  references := (l.timeAxis?.map fun a => a.references.length).getD 0
  elevation := l.elevation.map fun e =>
    { unit := e.levelType.unit, default := e.default, extent := e.extent }
  interval := l.intervals.map fun p =>
    { start := p.startExtent, stop := p.stopExtent, default := p.default }

def authorizeMap (access : Access) (key : String) (p : Parameters MapParameter) :
    Except RequestError Unit :=
  if access.authorizes key (Request.splitList ((p .layers).getD "")) then .ok ()
  else .error (.accessDenied "API key is not authorized for the requested layers")

end LayerAtlas
