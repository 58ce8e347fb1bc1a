import LayerAtlas.Ascending
import LayerAtlas.Text.Numeral

namespace LayerAtlas

open Text

inductive LevelType where
  | pressure
  | flightLevel
  | altitude
  | height
  | depth
  | other
  deriving DecidableEq, Repr

namespace LevelType

def name : LevelType → String
  | pressure => "pressure"
  | flightLevel => "flight_level"
  | altitude => "altitude"
  | height => "height"
  | depth => "depth"
  | other => "other"

def ofName (name : String) : LevelType :=
  (([pressure, flightLevel, altitude, height, depth] : List LevelType).find? fun l =>
    l.name = name).getD other

def unit : LevelType → Option String
  | pressure => some "hPa"
  | flightLevel => some "ft100"
  | altitude | height | depth => some "m"
  | other => none

end LevelType

structure Elevation where
  levelType : LevelType
  values : List Int
  ascending : Ascending values
  nonempty : values ≠ []
  deriving DecidableEq

namespace Elevation

def ofList? (levelType : LevelType) (values : List Int) : Option Elevation :=
  if nonempty : Ascending.ofList values ≠ [] then
    some {
      levelType
      values := Ascending.ofList values
      ascending := Ascending.ofList_ascending values
      nonempty }
  else none

/-- The level used when none is asked for: the one nearest to the ground, which for pressure is
the highest value. -/
def default (e : Elevation) : Int :=
  if e.levelType = .pressure then e.values.getLast e.nonempty else e.values.head e.nonempty

def contains (e : Elevation) (value : Int) : Bool := e.values.elem value

/-- Worth publishing: of a known type, and more than the lone level 0. -/
def isPublished (e : Elevation) : Bool := e.values ≠ [0] && e.levelType ≠ .other

def extent (e : Elevation) : String := String.intercalate "," (e.values.map showInt)

end Elevation

structure IntervalPair where
  start : Int
  stop : Int
  isDefault : Bool := false
  deriving DecidableEq, Repr

structure IntervalPairs where
  items : List IntervalPair
  nonempty : items ≠ []
  deriving DecidableEq

namespace IntervalPairs

def ofList? (items : List IntervalPair) : Option IntervalPairs :=
  if nonempty : items ≠ [] then some { items, nonempty } else none

def contains (p : IntervalPairs) (start stop : Int) : Bool :=
  p.items.any fun i => i.start = start && i.stop = stop

def default (p : IntervalPairs) : Int × Int :=
  let item := (p.items.find? fun i => i.isDefault).getD (p.items.head p.nonempty)
  (item.start, item.stop)

def startExtent (p : IntervalPairs) : String :=
  String.intercalate "," (p.items.map fun i => showInt i.start)

def stopExtent (p : IntervalPairs) : String :=
  String.intercalate "," (p.items.map fun i => showInt i.stop)

end IntervalPairs

end LayerAtlas
