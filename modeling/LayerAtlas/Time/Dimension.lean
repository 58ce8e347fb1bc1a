import LayerAtlas.Answer
import LayerAtlas.Time.Request

namespace LayerAtlas

/-- A regular series from `start` to `stop` at most, with a step in minutes. -/
structure TimeInterval where
  start : Instant
  stop : Instant
  minutes : Int
  ordered : start ≤ stop
  step_pos : 0 < minutes
  deriving DecidableEq

namespace TimeInterval

def make (start stop : Instant) (minutes : Int) : Except TimeError TimeInterval :=
  if ordered : start ≤ stop then
    if step_pos : 0 < minutes then .ok { start, stop, minutes, ordered, step_pos }
    else .error (.malformedDuration (Duration.write minutes))
  else .error (.invalidInterval (Timestamp.write start ++ "/" ++ Timestamp.write stop))

def stepSeconds (i : TimeInterval) : Answer Int := Answer.times i.minutes 60

def stopBy (i : TimeInterval) : Option Instant → Instant
  | none => i.stop
  | some limit => limit.earlier i.stop

def contains (i : TimeInterval) (limit : Option Instant) (t : Instant) : Answer Bool :=
  let offset := t.since i.start
  if i.start ≤ t ∧ t ≤ i.stopBy limit ∧ offset.nanos = 0 then do
    let rest ← Answer.remainder offset.wholeSeconds (← i.stepSeconds)
    return rest = 0
  else some false

def lastBy (i : TimeInterval) (limit : Instant) : Answer (Option Instant) :=
  let stop := limit.earlier i.stop
  if stop < i.start then some none
  else do
    let steps ← Answer.quotient (stop.since i.start).wholeSeconds (← i.stepSeconds)
    let seconds ← Answer.times steps (← i.stepSeconds)
    return i.start.shift seconds

def extent (i : TimeInterval) : String :=
  Timestamp.write i.start ++ "/" ++ Timestamp.write i.stop ++ "/" ++ Duration.write i.minutes

end TimeInterval

structure Steps where
  times : List Instant
  ascending : Ascending times
  nonempty : times ≠ []
  deriving DecidableEq

namespace Steps

def ofList? (ts : List Instant) : Option Steps :=
  if nonempty : Ascending.ofList ts ≠ [] then
    some { times := Ascending.ofList ts, ascending := Ascending.ofList_ascending ts, nonempty }
  else none

end Steps

structure Intervals where
  items : List TimeInterval
  nonempty : items ≠ []
  deriving DecidableEq

inductive TimeDimension where
  | steps (steps : Steps)
  | intervals (intervals : Intervals)
  deriving DecidableEq

namespace TimeDimension

def ofInterval (i : TimeInterval) : TimeDimension :=
  intervals { items := [i], nonempty := List.cons_ne_nil _ _ }

def evenlySpaced (step : Span) : List Instant → Bool
  | t :: u :: r => u.since t = step && evenlySpaced step (u :: r)
  | _ => true

/-- Three or more instants a whole number of minutes apart, as an interval. -/
def evenInterval (ts : List Instant) : Option TimeInterval :=
  match ts with
  | t :: u :: _ :: _ =>
    let step := u.since t
    if evenlySpaced step ts ∧ step.wholeSeconds.tmod 60 = 0 ∧ step.nanos = 0 then
      (TimeInterval.make t (ts.getLastD t) step.wholeMinutes).toOption
    else none
  | _ => none

def ofInstants? (ts : List Instant) : Option TimeDimension :=
  (Steps.ofList? ts).map fun steps =>
    match evenInterval steps.times with
    | some i => ofInterval i
    | none => .steps steps

def contains (limit : Option Instant) (t : Instant) (d : TimeDimension) : Answer Bool :=
  if limit.all fun l => t ≤ l then
    match d with
    | steps s => some (s.times.elem t)
    | intervals is => is.items.anyM fun i => i.contains limit t
  else some false

def last? (limit : Option Instant) (d : TimeDimension) : Answer (Option Instant) :=
  match d, limit with
  | steps s, none => some s.times.getLast?
  | steps s, some l => some (s.times.reverse.find? (· ≤ l))
  | intervals is, none => some (Instant.latest? (is.items.map TimeInterval.stop))
  | intervals is, some l =>
    (is.items.mapM fun i : TimeInterval => i.lastBy l).map fun found =>
      Instant.latest? (found.filterMap id)

def extent : TimeDimension → String
  | steps s => String.intercalate "," (s.times.map Timestamp.write)
  | intervals is => String.intercalate "," (is.items.map TimeInterval.extent)

end TimeDimension

end LayerAtlas
