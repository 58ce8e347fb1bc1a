import LayerAtlas.Text.Blank
import LayerAtlas.Text.Decimal

namespace LayerAtlas

open Text

structure BoundingBox where
  minX : Float
  minY : Float
  maxX : Float
  maxY : Float

inductive BoundingBoxError where
  | invalidFormat (text : String)
  | invalidNumber (text : String)
  deriving DecidableEq, Repr

def BoundingBoxError.message : BoundingBoxError → String
  | invalidFormat text => "Invalid BBOX format: " ++ text ++ ". Expected 'minx,miny,maxx,maxy'"
  | invalidNumber text => "Invalid number in BBOX: " ++ text

namespace BoundingBox

def world : BoundingBox := { minX := -180, minY := -90, maxX := 180, maxY := 90 }

def isValid (b : BoundingBox) : Bool := b.minX < b.maxX && b.minY < b.maxY

theorem isValid_iff {b : BoundingBox} :
    b.isValid = true ↔ b.minX < b.maxX ∧ b.minY < b.maxY := by
  simp [isValid]

def readNumber (text : String) : Except BoundingBoxError Float :=
  match floatOfText text with
  | some x => .ok x
  | none => .error (.invalidNumber text)

def read (text : String) : Except BoundingBoxError BoundingBox :=
  match (text.toList.splitOn ',').map fun part => String.ofList (trimChars part) with
  | [minX, minY, maxX, maxY] => do
    let minX ← readNumber minX
    let minY ← readNumber minY
    let maxX ← readNumber maxX
    let maxY ← readNumber maxY
    return { minX, minY, maxX, maxY }
  | _ => .error (.invalidFormat text)

end BoundingBox

end LayerAtlas
