import LayerAtlas.Ascending
import LayerAtlas.BoundingBox
import LayerAtlas.Text.Ascii

namespace LayerAtlas

open Text

def normalCrs (id : String) : String := upper (trim id)

structure Reference where
  id : String
  geographic : Bool := false
  bbox : BoundingBox := .world
  /-- Published unless a layer disables it; others are published where a layer enables them. -/
  enabled : Bool := true

def Reference.defaults : List Reference :=
  [ { id := "EPSG:4326", geographic := true },
    { id := "CRS:84", geographic := true },
    { id := "EPSG:3857"
      bbox := { minX := -180, minY := -85.051129, maxX := 180, maxY := 85.051129 } },
    { id := "EPSG:3035"
      bbox := { minX := -10.67, minY := 34.5, maxX := 31.55, maxY := 71.05 }
      enabled := false } ]

/-- The reference systems of one layer: normal forms in increasing order. -/
structure CrsSet where
  ids : List String
  deriving DecidableEq, Repr

namespace CrsSet

def ofReferences (references : List Reference) : CrsSet where
  ids := Ascending.ofList ((references.filter Reference.enabled).map fun r => normalCrs r.id)

def isKnown (id : String) (references : List Reference) : Bool :=
  references.any fun r => normalCrs r.id = normalCrs id

def insert (s : CrsSet) (id : String) : CrsSet where
  ids := Ascending.insert (normalCrs id) s.ids

def enable (s : CrsSet) (id : String) (references : List Reference) : CrsSet :=
  if isKnown id references then s.insert id else s

def disable (s : CrsSet) (id : String) : CrsSet where
  ids := s.ids.filter (· ≠ normalCrs id)

def contains (s : CrsSet) (id : String) : Bool := s.ids.elem (normalCrs id)

end CrsSet

end LayerAtlas
