import LayerAtlas.Text.Ascii
import LayerAtlas.Text.Blank
import LayerAtlas.Time.Duration
import LayerAtlas.Time.Timestamp

namespace LayerAtlas

open Text

inductive TimePoint where
  | current
  | at (t : Instant)
  deriving DecidableEq

inductive TimeSpec where
  | current
  | single (t : Instant)
  | interval (start stop : TimePoint) (minutes : Int)
  deriving DecidableEq

namespace TimePoint

def read (text : String) : Except TimeError TimePoint :=
  let s := trim text
  if sameLetters s "current" then .ok .current else (Timestamp.read s).map .at

def resolve (now : Instant) : TimePoint → Instant
  | current => now
  | .at t => t

end TimePoint

namespace TimeSpec

def isCurrent : TimeSpec → Bool
  | current => true
  | _ => false

def readSingle (text : String) : Except TimeError TimeSpec :=
  (TimePoint.read text).map fun
    | .current => .current
    | .at t => .single t

/-- Two literal ends are in order; nothing is known of `current` yet. -/
def inOrder : TimePoint → TimePoint → Bool
  | .at start, .at stop => decide (start ≤ stop)
  | _, _ => true

def readInterval (text : String) : Except TimeError TimeSpec :=
  match (text.toList.splitOn '/').map String.ofList with
  | [start, stop, step] => do
    let start ← TimePoint.read start
    let stop ← TimePoint.read stop
    let minutes ← Duration.read (trim step)
    if inOrder start stop then .ok (.interval start stop minutes)
    else .error (.invalidInterval text)
  | _ => .error (.invalidFormat text)

/-- Reads a list: a comma separates elements, and a slash anywhere makes all of them
intervals. -/
def readList (text : String) : Except TimeError (List TimeSpec) :=
  let text := trim text
  if text = "" then .error (.invalidFormat text)
  else
    let readOne := if '/' ∈ text.toList then readInterval else readSingle
    ((text.toList.splitOn ',').map String.ofList).mapM readOne

def maxStep : Int := 153722867280912

/-- The instants from `t` to `stop` that lie `step` seconds apart, unless there are more than
`room`. -/
def progression (step : Int) (stop : Instant) : Nat → Instant → Option (List Instant)
  | room, t =>
    if t ≤ stop then
      match room with
      | 0 => none
      | room + 1 =>
        match t.shift step with
        | none => some [t]
        | some next => (progression step stop room next).map (t :: ·)
    else some []

def expandWithin (now : Instant) (room : Nat) : TimeSpec → Except TimeError (List Instant)
  | current => if room = 0 then .error (.tooManyValues maxTimeValues) else .ok [now]
  | single t => if room = 0 then .error (.tooManyValues maxTimeValues) else .ok [t]
  | interval start stop minutes =>
    let start := start.resolve now
    let stop := stop.resolve now
    if stop < start then
      .error (.invalidInterval (Timestamp.write start ++ "/" ++ Timestamp.write stop))
    else if minutes ≤ 0 then .ok []
    else if maxStep < minutes then .error (.malformedDuration (Duration.write minutes))
    else match progression (minutes * 60) stop room start with
      | some ts => .ok ts
      | none => .error (.tooManyValues maxTimeValues)

def expand (now : Instant) (spec : TimeSpec) : Except TimeError (List Instant) :=
  spec.expandWithin now maxTimeValues

/-- The instants of all elements in their order, `room` in number at most. -/
def expandAllWithin (now : Instant) : Nat → List TimeSpec → Except TimeError (List Instant)
  | _, [] => .ok []
  | room, spec :: specs => do
    let ts ← spec.expandWithin now room
    let more ← expandAllWithin now (room - ts.length) specs
    return ts ++ more

def expandAll (now : Instant) (specs : List TimeSpec) : Except TimeError (List Instant) :=
  expandAllWithin now maxTimeValues specs

end TimeSpec

end LayerAtlas
