import LayerAtlas.Text.Decimal

namespace LayerAtlas.Text

namespace Shortest

def valueOf (bits : Nat) : Nat × Nat :=
  let e := bits / Decimal.hidden
  let m := if e = 0 then bits % Decimal.hidden else Decimal.hidden + bits % Decimal.hidden
  let q : Int := (max e 1 : Nat) - 1075
  if 0 ≤ q then (m * Nat.pow 2 q.toNat, 1) else (m, Nat.pow 2 (-q).toNat)

def inUnits (num den : Nat) (exponent : Int) : Nat :=
  if 0 ≤ exponent then Decimal.roundDiv num (den * Nat.pow 10 exponent.toNat)
  else Decimal.roundDiv (num * Nat.pow 10 (-exponent).toNat) den

def leastExponent : Int := -1074

/-- The decimal with the largest power of ten, of `leastExponent + rounds` at most, that reads
back. -/
def search (bits : Nat) : Nat → Decimal
  | 0 => {
    significand := inUnits (valueOf bits).1 (valueOf bits).2 leastExponent
    exponent := leastExponent }
  | rounds + 1 =>
    let exponent := leastExponent + rounds + 1
    let d : Decimal :=
      { significand := inUnits (valueOf bits).1 (valueOf bits).2 exponent, exponent }
    if d.bits = bits then d else search bits rounds

def ofBits (bits : Nat) : Decimal := search bits 1383

def layout (d : Decimal) : List Char :=
  let ds := digitsOf d.significand
  let point : Int := ds.length + d.exponent
  if 0 ≤ d.exponent ∧ point ≤ 16 then ds ++ List.replicate d.exponent.toNat '0' ++ ['.', '0']
  else if 0 < point ∧ point ≤ 16 then ds.take point.toNat ++ '.' :: ds.drop point.toNat
  else if -5 < point ∧ point ≤ 0 then '0' :: '.' :: List.replicate (-point).toNat '0' ++ ds
  else
    let tail := 'e' :: (showInt (point - 1)).toList
    match ds with
    | [d] => d :: tail
    | d :: rest => d :: '.' :: rest ++ tail
    | [] => tail

end Shortest

def signBit : Nat := 9223372036854775808

def showFloat? (x : Float) : Option String :=
  let bits := x.toBits.toNat
  let magnitude := bits % signBit
  let sign := if signBit ≤ bits then ['-'] else []
  if Decimal.infinity ≤ magnitude then none
  else if magnitude = 0 then some (String.ofList (sign ++ ['0', '.', '0']))
  else some (String.ofList (sign ++ Shortest.layout (Shortest.ofBits magnitude)))

end LayerAtlas.Text
