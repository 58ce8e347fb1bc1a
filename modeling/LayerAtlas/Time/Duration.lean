import LayerAtlas.Text.Numeral
import LayerAtlas.Time.Error

namespace LayerAtlas.Duration

open Text

def maxMinutes : Nat := 9223372036854775807

def isMark (c : Char) : Bool :=
  c.isDigit || c = 'P' || c = 'D' || c = 'T' || c = 'H' || c = 'M' || c = 'S'

def numberBefore (before : List Char) : Option Nat :=
  (natOfText (before.reverse.takeWhile Char.isDigit).reverse).filter (· ≤ maxMinutes)

def beforeFirst (c : Char) (s : List Char) : Option (List Char) :=
  if c ∈ s then some (s.takeWhile (· ≠ c)) else none

def beforeLast (c : Char) (s : List Char) : Option (List Char) :=
  if c ∈ s then some (s.reverse.dropWhile (· ≠ c)).tail.reverse else none

/-- The days, whose designator may not follow `T`; none if they are malformed. -/
def days (s : List Char) : Option Nat :=
  match beforeFirst 'D' s with
  | none => some 0
  | some before => if 'T' ∈ before then none else numberBefore before

/-- A field of the time part, whose designator has to follow `T`; none if it is malformed. -/
def timeField (designator : Char) (s : List Char) : Option Nat :=
  match beforeLast designator s with
  | none => some 0
  | some before => if 'T' ∈ before then numberBefore before else none

def minutesOf (s : List Char) : Option Nat := do
  if s.head? ≠ some 'P' ∨ ¬ s.all isMark ∨ 'M' ∈ s.takeWhile (· ≠ 'T') then none
  let days ← days s
  let hours ← timeField 'H' s
  let minutes ← timeField 'M' s
  let seconds ← timeField 'S' s
  let total := days * 1440 + hours * 60 + minutes + seconds / 60
  if total ≤ maxMinutes then some total else none

/-- Reads a duration into minutes; seconds short of a minute are dropped. -/
def read (text : String) : Except TimeError Nat :=
  match minutesOf text.toList with
  | some n => .ok n
  | none => .error (.malformedDuration text)

def write (minutes : Int) : String :=
  let hours := minutes.tdiv 60
  let rest := minutes.tmod 60
  if hours = 0 then "PT" ++ showInt rest ++ "M"
  else if rest = 0 then "PT" ++ showInt hours ++ "H"
  else "PT" ++ showInt hours ++ "H" ++ showInt rest ++ "M"

end LayerAtlas.Duration
