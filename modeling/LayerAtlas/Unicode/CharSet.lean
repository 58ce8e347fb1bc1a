
namespace LayerAtlas.Unicode

/-- Ranges of code points in increasing order, with something between any two of them. The code
points between U+D7FF and U+E000 are no characters; both ends of a range always are. -/
structure CharSet where
  ranges : List (Nat × Nat)
  deriving DecidableEq, Repr

def lastCode : Nat := 0x10FFFF

def nextCode (c : Nat) : Nat := if c = 0xD7FF then 0xE000 else c + 1

def prevCode (c : Nat) : Nat := if c = 0xE000 then 0xD7FF else c - 1

namespace CharSet

def mem (s : CharSet) (c : Nat) : Bool := s.ranges.any fun r => r.1 ≤ c && c ≤ r.2

def join : List (Nat × Nat) → List (Nat × Nat)
  | a :: b :: rest =>
    if b.1 ≤ a.2 + 1 then join ((a.1, max a.2 b.2) :: rest) else a :: join (b :: rest)
  | rest => rest
  termination_by rs => rs.length

def ofRanges (rs : List (Nat × Nat)) : CharSet := ⟨join (rs.mergeSort fun a b => a.1 ≤ b.1)⟩

def empty : CharSet := ⟨[]⟩

def single (c : Nat) : CharSet := ⟨[(c, c)]⟩

def ofChars (cs : List Char) : CharSet := ofRanges (cs.map fun c => (c.toNat, c.toNat))

def all : CharSet := ⟨[(0, lastCode)]⟩

def ascii : CharSet := ⟨[(0, 127)]⟩

def isEmpty (s : CharSet) : Bool := s.ranges.isEmpty

def isAscii (s : CharSet) : Bool := s.ranges.all fun r => r.2 ≤ 127

def single? (s : CharSet) : Option Nat :=
  match s.ranges with
  | [(a, b)] => if a = b then some a else none
  | _ => none

def union (s t : CharSet) : CharSet :=
  ⟨join (List.merge s.ranges t.ranges fun a b => a.1 ≤ b.1)⟩

def interRanges : List (Nat × Nat) → List (Nat × Nat) → List (Nat × Nat)
  | [], _ | _, [] => []
  | r :: rs, t :: ts =>
    let common := if max r.1 t.1 ≤ min r.2 t.2 then [(max r.1 t.1, min r.2 t.2)] else []
    common ++ (if r.2 < t.2 then interRanges rs (t :: ts) else interRanges (r :: rs) ts)
  termination_by rs ts => rs.length + ts.length

def inter (s t : CharSet) : CharSet := ⟨interRanges s.ranges t.ranges⟩

def diffRanges : List (Nat × Nat) → List (Nat × Nat) → List (Nat × Nat)
  | [], _ => []
  | rs, [] => rs
  | r :: rs, t :: ts =>
    if t.2 < r.1 then diffRanges (r :: rs) ts
    else if r.2 < t.1 then r :: diffRanges rs (t :: ts)
    else
      (if r.1 < t.1 then [(r.1, prevCode t.1)] else []) ++
        (if t.2 < r.2 then diffRanges ((nextCode t.2, r.2) :: rs) ts
        else diffRanges rs (t :: ts))
  termination_by rs ts => rs.length + ts.length

def diff (s t : CharSet) : CharSet := ⟨diffRanges s.ranges t.ranges⟩

def symmDiff (s t : CharSet) : CharSet := (s.union t).diff (s.inter t)

/-- The gaps between ranges after a code point; a gap without characters gives the two beside
it. -/
def gapsAfter (last : Nat) : List (Nat × Nat) → List (Nat × Nat)
  | [] => if last < lastCode then [(nextCode last, lastCode)] else []
  | r :: rs =>
    (min (nextCode last) (prevCode r.1), max (nextCode last) (prevCode r.1)) :: gapsAfter r.2 rs

def negate (s : CharSet) : CharSet :=
  match s.ranges with
  | [] => all
  | r :: rs => ⟨(if 0 < r.1 then [(0, prevCode r.1)] else []) ++ gapsAfter r.2 rs⟩

end CharSet

end LayerAtlas.Unicode
