import LayerAtlas.Text.Blank
import LayerAtlas.Text.Numeral
import LayerAtlas.Time.Error
import LayerAtlas.Time.Instant

namespace LayerAtlas.Timestamp

open Text

/-- A date and a time of day, not necessarily of the calendar and the clock. -/
structure Reading where
  year : Int := 0
  month : Nat := 1
  day : Nat := 1
  hour : Nat := 0
  minute : Nat := 0
  second : Nat := 0
  nanos : Nat := 0
  deriving DecidableEq, Repr

namespace Reading

def date (r : Reading) : Date := { year := r.year, month := r.month, day := r.day }

def OnClock (r : Reading) : Prop := r.hour < 24 ∧ r.minute < 60 ∧ r.second ≤ 60

instance (r : Reading) : Decidable r.OnClock := inferInstanceAs (Decidable (_ ∧ _))

/-- Seconds from 1970-01-01T00:00:00 to the second read, or to second 59 before a leap
second. -/
def seconds (r : Reading) : Int :=
  r.date.dayNumber * 86400 + ((r.hour * 3600 + r.minute * 60 + min r.second 59 : Nat) : Int)

def toInstant? (r : Reading) (offset : Int) : Option Instant :=
  if r.date.Valid ∧ r.OnClock then
    let nanos := (if r.second = 60 then 1000000000 else 0) + r.nanos
    (Instant.of? r.seconds nanos).bind fun _ => Instant.of? (r.seconds - offset) nanos
  else none

end Reading

inductive Item where
  | year
  | month
  | day
  | hour
  | minute
  | second
  | mark (c : Char)
  | gap

def readYear : List Char → Option (Int × List Char)
  | '-' :: s => (takeNat 1 s.length s).map fun (n, rest) => (-(n : Int), rest)
  | '+' :: s => (takeNat 1 s.length s).map fun (n, rest) => ((n : Int), rest)
  | s => (takeNat 1 4 s).map fun (n, rest) => ((n : Int), rest)

def expect (c : Char) : List Char → Option (List Char)
  | [] => none
  | d :: rest => if c = d then some rest else none

/-- Reads one element; blanks may stand before a number, and a gap is any number of blanks. -/
def Item.read (item : Item) (r : Reading) (s : List Char) : Option (Reading × List Char) :=
  match item with
  | year => (readYear (trimStart s)).map fun (n, rest) => ({ r with year := n }, rest)
  | month => (takeNat 1 2 (trimStart s)).map fun (n, rest) => ({ r with month := n }, rest)
  | day => (takeNat 1 2 (trimStart s)).map fun (n, rest) => ({ r with day := n }, rest)
  | hour => (takeNat 1 2 (trimStart s)).map fun (n, rest) => ({ r with hour := n }, rest)
  | minute => (takeNat 1 2 (trimStart s)).map fun (n, rest) => ({ r with minute := n }, rest)
  | second => (takeNat 1 2 (trimStart s)).map fun (n, rest) => ({ r with second := n }, rest)
  | mark c => (expect c s).map fun rest => (r, rest)
  | gap => some (r, trimStart s)

def readItems : List Item → Reading → List Char → Option (Reading × List Char)
  | [], r, s => some (r, s)
  | item :: items, r, s => (item.read r s).bind fun (r, s) => readItems items r s

def readForm (form : List Item) (s : List Char) : Option Instant :=
  match readItems form {} s with
  | some (r, []) => r.toInstant? 0
  | _ => none

/-- The forms without a zone, in the order in which they are tried. -/
def plainForms : List (List Item) :=
  let mark := Item.mark
  let date := [.year, mark '-', .month, mark '-', .day]
  [ date ++ [mark 'T', .hour, mark ':', .minute, mark ':', .second],
    date ++ [mark 'T', .hour, mark ':', .minute],
    [.year, .month, .day, mark 'T', .hour, .minute, .second],
    [.year, .month, .day, .hour, .minute],
    date ]

/-- Nanoseconds from the digits of a fraction, of which the first nine count. -/
def fractionNanos (ds : List Char) : Nat :=
  natOfDigits (ds.take 9) * Nat.pow 10 (9 - (ds.take 9).length)

def readFraction : List Char → Option (Nat × List Char)
  | '.' :: s =>
    let (ds, rest) := spanDigits s.length s
    if ds = [] then none else some (fractionNanos ds, rest)
  | s => some (0, s)

/-- How far ahead of universal time a zone is, in seconds: `Z`, or a sign, hours, a separator
and minutes. -/
def readZone (separator : List Char → Option (List Char)) : List Char → Option (Int × List Char)
  | [] => none
  | c :: s =>
    if c = 'Z' ∨ c = 'z' then some (0, s)
    else if c = '+' ∨ c = '-' ∨ c = '\u2212' then do
      let (hours, s) ← takeNat 2 2 s
      let s ← separator s
      let (minutes, s) ← takeNat 2 2 s
      if minutes < 60 then
        let ahead : Int := ((hours * 3600 + minutes * 60 : Nat) : Int)
        some (if c = '+' then ahead else -ahead, s)
      else none
    else none

def readDivider : List Char → Option (List Char)
  | c :: s => if c = 'T' ∨ c = 't' ∨ c = ' ' then some s else none
  | [] => none

def ofRfc3339 (s : List Char) : Option Instant := do
  let (year, s) ← takeNat 4 4 s
  let s ← expect '-' s
  let (month, s) ← takeNat 2 2 s
  let s ← expect '-' s
  let (day, s) ← takeNat 2 2 s
  let s ← readDivider s
  let (hour, s) ← takeNat 2 2 s
  let s ← expect ':' s
  let (minute, s) ← takeNat 2 2 s
  let s ← expect ':' s
  let (second, s) ← takeNat 2 2 s
  let (nanos, s) ← readFraction s
  let (offset, s) ← readZone (expect ':') s
  if s = [] ∧ -86400 < offset ∧ offset < 86400 then
    Reading.toInstant? { year, month, day, hour, minute, second, nanos } offset
  else none

/-- A timestamp with a zone, written with liberties: short numbers, signed years and blanks
between the parts. -/
def ofLooseRfc3339 (s : List Char) : Option Instant := do
  let (r, s) ← readItems [.year, .gap, .mark '-', .month, .gap, .mark '-', .day] {} s
  let s ← readDivider s
  let (r, s) ← readItems [.hour, .gap, .mark ':', .minute, .gap, .mark ':', .second] r s
  let (nanos, s) ← readFraction s
  let s := trimStart s
  let (offset, s) ←
    if (s.take 3).map Char.toUpper = ['U', 'T', 'C'] then some (0, s.drop 3)
    else readZone (fun s => some (s.dropWhile fun c => c = ':' || isBlank c)) s
  if trimStart s = [] ∧ -86400 < offset ∧ offset < 86400 then
    Reading.toInstant? { r with nanos } offset
  else none

/-- A text without what stands between its first point and its last `Z` after it. -/
def dropFraction (s : List Char) : List Char :=
  let fromPoint := s.dropWhile (· ≠ '.')
  if 'Z' ∈ fromPoint then
    s.takeWhile (· ≠ '.') ++ 'Z' :: (fromPoint.reverse.takeWhile (· ≠ 'Z')).reverse
  else s

def dropZulu (s : List Char) : List Char := if s.getLast? = some 'Z' then s.dropLast else s

def ofChars (s : List Char) : Option Instant :=
  (ofRfc3339 s).or (plainForms.findSome? fun form => readForm form (dropZulu s))

def read (text : String) : Except TimeError Instant :=
  let s := dropFraction (trimChars text.toList)
  match ofChars s with
  | some t => .ok t
  | none => .error (.invalidFormat (String.ofList s))

def writeYear (y : Int) : List Char :=
  if 0 ≤ y ∧ y ≤ 9999 then padded 4 y.toNat
  else (if y < 0 then '-' else '+') :: padded 4 y.natAbs

def writeSecond (t : Instant) : List Char :=
  let date := Date.ofDayNumber t.day
  let second := t.secondOfDay.toNat
  writeYear date.year ++ '-' :: padded 2 date.month ++ '-' :: padded 2 date.day ++
    'T' :: padded 2 (second / 3600) ++ ':' :: padded 2 (second / 60 % 60) ++
    ':' :: padded 2 (second % 60 + if t.IsLeap then 1 else 0)

def write (t : Instant) : String := String.ofList (writeSecond t ++ ['Z'])

/-- A fraction of a second in 3, 6 or 9 digits, the fewest that lose nothing; nothing for
zero. -/
def writeFraction (nanos : Nat) : List Char :=
  let n := nanos % 1000000000
  if n = 0 then []
  else if n % 1000000 = 0 then '.' :: padded 3 (n / 1000000)
  else if n % 1000 = 0 then '.' :: padded 6 (n / 1000)
  else '.' :: padded 9 n

def writeExact (zone : String) (t : Instant) : String :=
  String.ofList (writeSecond t ++ writeFraction t.nanos) ++ zone

end LayerAtlas.Timestamp
