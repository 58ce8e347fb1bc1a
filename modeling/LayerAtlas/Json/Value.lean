import LayerAtlas.Ascending
import LayerAtlas.Json.Document
import LayerAtlas.Text.Decimal

namespace LayerAtlas.Json

open Text

/-- A value; the members of an object are in increasing order of their keys. -/
inductive Value where
  | null
  | bool (b : Bool)
  | whole (n : Int)
  | double (x : Float)
  | text (s : String)
  | array (items : List Value)
  | object (members : List (String × Value))

namespace Numeral

def accumulate (acc : Nat) : List Char → Nat × Nat
  | [] => (acc, 0)
  | c :: ds =>
    let next := acc * 10 + (c.toNat - 48)
    if next ≤ maxNat64 then
      let (n, used) := accumulate next ds
      (n, used + 1)
    else (acc, 0)

def powerOfTen (k : Nat) : Float := Decimal.toFloat { significand := 1, exponent := k }

def divideByTens : Nat → Float → Nat → Float
  | 0, x, _ => x
  | rounds + 1, x, k =>
    if k ≤ 308 then x / powerOfTen k else divideByTens rounds (x / powerOfTen 308) (k - 308)

def doubleOf (significand : Nat) (exponent : Int) : Option Float :=
  let x := Float.ofBits (UInt64.ofNat (Decimal.nearestBits significand 1))
  if significand = 0 then some x
  else if exponent < 0 then some (divideByTens 4 x exponent.natAbs)
  else if 308 < exponent then none
  else
    let y := x * powerOfTen exponent.toNat
    if y.isInf then none else some y

def toDouble? (n : Numeral) : Option Float :=
  let (head, wholeUsed) := accumulate 0 n.whole
  let (significand, placesUsed) := accumulate head n.places
  let exponent : Int :=
    (n.whole.length - wholeUsed : Nat) - (placesUsed : Int) + n.exponent.getD 0
  (doubleOf significand exponent).map fun x => if n.negative then -x else x

def toWhole? (n : Numeral) : Option Int :=
  if n.isWhole then
    let m := natOfDigits n.whole
    if n.negative then (if 0 < m ∧ -maxInt64 - 1 ≤ -(m : Int) then some (-(m : Int)) else none)
    else (if m ≤ maxNat64 then some (m : Int) else none)
  else none

def toValue? (n : Numeral) : Option Value :=
  match n.toWhole? with
  | some m => some (.whole m)
  | none => n.toDouble?.map .double

end Numeral

/-- Members in order of their keys; of several with one key the last counts. -/
def sortMembers (members : List (String × Value)) : List (String × Value) :=
  (Ascending.ofList (members.map Prod.fst)).filterMap fun key =>
    (members.reverse.find? fun m => m.1 = key)

mutual

/-- The value of a document, unless it nests deeper than `depth`, or a part of it has no
value. -/
def Node.toValue? : Nat → Node → Option Value
  | _, .null => some .null
  | _, .bool b => some (.bool b)
  | _, .number n => n.toValue?
  | _, .text s => s.map .text
  | 0, .array _ => none
  | depth + 1, .array items => (itemValues? depth items).map .array
  | 0, .object _ => none
  | depth + 1, .object members => (memberValues? depth members).map fun ms =>
    .object (sortMembers ms)

def itemValues? : Nat → List Node → Option (List Value)
  | _, [] => some []
  | depth, item :: items => do
    let v ← item.toValue? depth
    let vs ← itemValues? depth items
    return v :: vs

def memberValues? : Nat → List (Option String × Node) → Option (List (String × Value))
  | _, [] => some []
  | depth, (key, value) :: members => do
    let key ← key
    let v ← value.toValue? depth
    let vs ← memberValues? depth members
    return (key, v) :: vs

end

end LayerAtlas.Json
