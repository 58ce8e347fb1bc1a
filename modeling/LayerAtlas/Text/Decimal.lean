import LayerAtlas.Text.Ascii
import LayerAtlas.Text.Numeral

namespace LayerAtlas.Text

structure Decimal where
  significand : Nat
  exponent : Int
  deriving DecidableEq, Repr

namespace Decimal

/-- A quotient rounded to the nearest whole number, halves to the even one. -/
def roundDiv (num den : Nat) : Nat :=
  let q := num / den
  let r := num % den
  if 2 * r < den ∨ (2 * r = den ∧ q % 2 = 0) then q else q + 1

def scaled (num den : Nat) (q : Int) : Nat × Nat :=
  if 0 ≤ q then (num, den * Nat.pow 2 q.toNat) else (num * Nat.pow 2 (-q).toNat, den)

/-- The leading digit of a double, which its bits do not hold: the 53rd binary one. -/
def hidden : Nat := 4503599627370496

def infinity : Nat := 2047 * hidden

/-- The exponent of two that gives the quotient 53 binary digits, or the least exponent of a
double. -/
def binaryExponent (num den : Nat) : Int :=
  let guess : Int := (Nat.log2 num : Int) - (Nat.log2 den : Int) - 52
  let (n, d) := scaled num den guess
  let q := if n / d < hidden then guess - 1 else guess
  max q (-1074)

def nearestBits (num den : Nat) : Nat :=
  if num = 0 then 0
  else
    let q := binaryExponent num den
    let (n, d) := scaled num den q
    min ((q + 1074).toNat * hidden + roundDiv n d) infinity

def bits (d : Decimal) : Nat :=
  let magnitude : Int := ((digitsOf d.significand).length : Int) + d.exponent
  if d.significand = 0 ∨ magnitude < -330 then 0
  else if 310 < magnitude then infinity
  else if 0 ≤ d.exponent then nearestBits (d.significand * Nat.pow 10 d.exponent.toNat) 1
  else nearestBits d.significand (Nat.pow 10 (-d.exponent).toNat)

def toFloat (d : Decimal) : Float := Float.ofBits (UInt64.ofNat d.bits)

def exponentOf : List Char → Option Int
  | [] => some 0
  | c :: s =>
    if c = 'e' ∨ c = 'E' then
      match s with
      | '+' :: r => (natOfText r).map Int.ofNat
      | '-' :: r => (natOfText r).map fun n => -(n : Int)
      | r => (natOfText r).map Int.ofNat
    else none

def read (s : List Char) : Option Decimal :=
  let whole := s.takeWhile Char.isDigit
  let (places, rest) := match s.dropWhile Char.isDigit with
    | '.' :: r => (r.takeWhile Char.isDigit, r.dropWhile Char.isDigit)
    | r => ([], r)
  if whole = [] ∧ places = [] then none
  else (exponentOf rest).map fun e =>
    { significand := natOfDigits (whole ++ places), exponent := e - places.length }

end Decimal

def unsignedFloat (s : List Char) : Option Float :=
  let word := s.map Char.toLower
  if word = "inf".toList ∨ word = "infinity".toList then some (1.0 / 0.0)
  else if word = "nan".toList then some (0.0 / 0.0)
  else (Decimal.read s).map Decimal.toFloat

def floatOfText (s : String) : Option Float :=
  match s.toList with
  | '+' :: r => unsignedFloat r
  | '-' :: r => (unsignedFloat r).map Float.neg
  | r => unsignedFloat r

end LayerAtlas.Text
