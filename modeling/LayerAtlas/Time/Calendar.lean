
namespace LayerAtlas

/-- A year, a month and a day, not necessarily of the calendar. -/
structure Date where
  year : Int
  month : Nat
  day : Nat
  deriving DecidableEq, Repr

namespace Date

def isLeapYear (y : Int) : Bool := y % 4 = 0 && (y % 100 ≠ 0 || y % 400 = 0)

def monthLength (y : Int) (m : Nat) : Nat :=
  if m = 2 then (if isLeapYear y then 29 else 28)
  else if m = 4 ∨ m = 6 ∨ m = 9 ∨ m = 11 then 30
  else 31

def Valid (d : Date) : Prop :=
  1 ≤ d.month ∧ d.month ≤ 12 ∧ 1 ≤ d.day ∧ d.day ≤ monthLength d.year d.month

instance (d : Date) : Decidable d.Valid := inferInstanceAs (Decidable (_ ∧ _))

/-- Days from the first of March of year 0 to the first of March of a year. -/
def daysToMarch (y : Int) : Int := 365 * y + y / 4 - y / 100 + y / 400

def daysToMonth (m : Nat) : Nat := (153 * ((m + 9) % 12) + 2) / 5

def dayNumber (d : Date) : Int :=
  daysToMarch (if d.month ≤ 2 then d.year - 1 else d.year) + (daysToMonth d.month : Nat)
    + (d.day : Nat) - 719469

def ofDayNumber (n : Int) : Date :=
  let fromMarch := n + 719468
  let era := fromMarch / 146097
  let inEra := fromMarch % 146097
  let century := min 3 (inEra / 36524)
  let inCentury := inEra - 36524 * century
  let leapCycle := inCentury / 1461
  let inCycle := inCentury % 1461
  let yearOfCycle := min 3 (inCycle / 365)
  let dayOfYear := (inCycle - 365 * yearOfCycle).toNat
  let year := 400 * era + 100 * century + 4 * leapCycle + yearOfCycle
  let fifth := (5 * dayOfYear + 2) / 153
  let month := if fifth < 10 then fifth + 3 else fifth - 9
  { year := if month ≤ 2 then year + 1 else year
    month
    day := dayOfYear - (153 * fifth + 2) / 5 + 1 }

end Date

end LayerAtlas
