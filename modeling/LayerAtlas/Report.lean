import LayerAtlas.Json.Printer
import LayerAtlas.Request.Capabilities

namespace LayerAtlas

open Json

def textOrNull : Option String → Value
  | some s => .text s
  | none => .null

def BoundingBox.toValue (b : BoundingBox) : Value :=
  .object [("max_x", .double b.maxX), ("max_y", .double b.maxY), ("min_x", .double b.minX),
    ("min_y", .double b.minY)]

def ElevationSummary.toValue (e : ElevationSummary) : Value :=
  .object [("default", .whole e.default), ("extent", .text e.extent),
    ("units", textOrNull e.unit)]

def IntervalSummary.toValue (i : IntervalSummary) : Value :=
  .object [("default", .array [.whole i.default.1, .whole i.default.2]), ("end", .text i.stop),
    ("start", .text i.start)]

def LayerSummary.toValue (l : LayerSummary) : Value :=
  .object [("bbox", l.bbox.toValue), ("crs", .array (l.crs.map .text)),
    ("customer", .text l.customer),
    ("elevation", (l.elevation.map ElevationSummary.toValue).getD .null),
    ("interval", (l.interval.map IntervalSummary.toValue).getD .null),
    ("kind", .text l.kind.name), ("name", .text l.name),
    ("reference_times", .whole l.references), ("styles", .array (l.styles.map .text)),
    ("time", textOrNull l.time), ("title", .text l.title)]

def Capabilities.toValue (c : Capabilities) : Value :=
  .object [("generation", .whole c.generation),
    ("layers", .array (c.layers.map fun l => (LayerSummary.ofLayer l).toValue)),
    ("layout", .text c.layout.name)]

end LayerAtlas
