import LayerAtlas.Ascending
import LayerAtlas.Time.Calendar

namespace LayerAtlas

/-- Universal time from year -262143 to year 262142. A leap second is the continuation of second
59 of its minute. -/
structure Instant where
  /-- Seconds from 1970-01-01T00:00:00, leap seconds not counted. -/
  seconds : Int
  /-- Nanoseconds within the second; a billion and more in a leap second. -/
  nanos : Nat := 0
  inRange : -8334601228800 ≤ seconds ∧ seconds ≤ 8210266876799
  nanos_lt : nanos < 2000000000
  leap_ends_minute : 1000000000 ≤ nanos → seconds % 60 = 59
  deriving DecidableEq

/-- A length of time, the seconds rounded down. -/
structure Span where
  seconds : Int
  nanos : Nat
  deriving DecidableEq, Repr

namespace Span

/-- Whole seconds, a fraction being dropped toward zero. -/
def wholeSeconds (s : Span) : Int :=
  if s.seconds < 0 ∧ s.nanos ≠ 0 then s.seconds + 1 else s.seconds

def wholeMinutes (s : Span) : Int := s.wholeSeconds.tdiv 60

end Span

namespace Instant

theorem eq_iff {t u : Instant} : t = u ↔ t.seconds = u.seconds ∧ t.nanos = u.nanos := by
  cases t; cases u; simp

def of? (seconds : Int) (nanos : Nat) : Option Instant :=
  if inRange : -8334601228800 ≤ seconds ∧ seconds ≤ 8210266876799 then
    if nanos_lt : nanos < 2000000000 then
      if leap_ends_minute : 1000000000 ≤ nanos → seconds % 60 = 59 then
        some { seconds, nanos, inRange, nanos_lt, leap_ends_minute }
      else none
    else none
  else none

instance : LT Instant where
  lt t u := t.seconds < u.seconds ∨ (t.seconds = u.seconds ∧ t.nanos < u.nanos)

instance : LE Instant where
  le t u := ¬ u < t

instance : DecidableLT Instant := fun t u =>
  inferInstanceAs
    (Decidable (t.seconds < u.seconds ∨ (t.seconds = u.seconds ∧ t.nanos < u.nanos)))

instance : DecidableLE Instant := fun t u => inferInstanceAs (Decidable (¬ u < t))

theorem lt_def {t u : Instant} :
    t < u ↔ t.seconds < u.seconds ∨ (t.seconds = u.seconds ∧ t.nanos < u.nanos) := Iff.rfl

theorem le_def {t u : Instant} : t ≤ u ↔ ¬ u < t := Iff.rfl

instance : LinearLT Instant where
  irrefl t h := by rw [lt_def] at h; omega
  trans h₁ h₂ := by rw [lt_def] at *; omega
  connected h₁ h₂ := by rw [lt_def] at *; exact eq_iff.2 (by omega)

def earlier (t u : Instant) : Instant := if u < t then u else t

def latest? : List Instant → Option Instant
  | [] => none
  | t :: r => match latest? r with
    | none => some t
    | some u => some (if u < t then t else u)

def IsLeap (t : Instant) : Prop := 1000000000 ≤ t.nanos

instance (t : Instant) : Decidable t.IsLeap := inferInstanceAs (Decidable (_ ≤ _))

def secondOfDay (t : Instant) : Int := t.seconds % 86400

def day (t : Instant) : Int := t.seconds / 86400

/-- The time from `u` to `t`. Between different seconds of the day a leap second at the earlier
one counts. -/
def since (t u : Instant) : Span :=
  let leap : Int :=
    if u.secondOfDay < t.secondOfDay ∧ u.IsLeap then 1
    else if t.secondOfDay < u.secondOfDay ∧ t.IsLeap then -1
    else 0
  let fraction : Int := (t.nanos : Int) - u.nanos
  { seconds := t.seconds - u.seconds + leap + fraction / 1000000000
    nanos := (fraction % 1000000000).toNat }

/-- The instant a number of seconds later; a leap second is left for the second it continues. -/
def shift (t : Instant) (delta : Int) : Option Instant :=
  if delta = 0 then some t
  else if t.IsLeap then
    of? (if 0 < delta then t.seconds + delta else t.seconds + 1 + delta) (t.nanos - 1000000000)
  else of? (t.seconds + delta) t.nanos

def truncate (t : Instant) : Instant :=
  if h : t.IsLeap then
    { t with
      nanos := 1000000000
      nanos_lt := by decide
      leap_ends_minute := fun _ => t.leap_ends_minute h }
  else
    { t with
      nanos := 0
      nanos_lt := by decide
      leap_ends_minute := fun h => absurd h (by decide) }

end Instant

end LayerAtlas
