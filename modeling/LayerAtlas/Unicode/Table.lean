import LayerAtlas.Unicode.CharSet

namespace LayerAtlas.Unicode

def digitOf (c : Char) : Nat := if c.isLower then c.toNat - 97 else c.toNat - 65

/-- Reads numbers in base 26, the last digit of each a capital; `acc` holds the digits of the
first one read so far. -/
def readNumbers (acc : Nat) : List Char → List Nat
  | [] => []
  | c :: s =>
    if c.isLower then readNumbers (acc * 26 + digitOf c) s
    else (acc * 26 + digitOf c) :: readNumbers 0 s

/-- Each range is written as the gap before it and its length less one. -/
def rangesFrom (start : Nat) : List Nat → List (Nat × Nat)
  | gap :: length :: rest =>
    (start + gap, start + gap + length) :: rangesFrom (start + gap + length + 1) rest
  | _ => []

def readSet (text : List String) : CharSet :=
  ⟨rangesFrom 0 (readNumbers 0 (String.join text).toList)⟩

end LayerAtlas.Unicode
