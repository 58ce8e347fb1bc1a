import LayerAtlas.Unicode.CharSet

namespace LayerAtlas.Unicode

def utf8Bytes (c : Nat) : List Nat := (String.utf8EncodeChar (Char.ofNat c)).map UInt8.toNat

def cutAfter (c : Nat) (r : Nat × Nat) : List (Nat × Nat) :=
  if r.1 ≤ c ∧ c < r.2 then [(r.1, c), (nextCode c, r.2)] else [r]

/-- Cuts a range of more than one block so that only its first and its last part may be less
than whole blocks. -/
def cutBlocks (size : Nat) (r : Nat × Nat) : List (Nat × Nat) :=
  let cutTail (r : Nat × Nat) : List (Nat × Nat) :=
    if r.1 / size = r.2 / size ∨ (r.2 + 1) % size = 0 then [r]
    else [(r.1, r.2 / size * size - 1), (r.2 / size * size, r.2)]
  if r.1 / size = r.2 / size then [r]
  else if r.1 % size = 0 then cutTail r
  else (r.1, (r.1 / size + 1) * size - 1) :: cutTail ((r.1 / size + 1) * size, r.2)

def utf8Runs (r : Nat × Nat) : List (Nat × Nat) :=
  let parts := [0xD7FF, 0x7F, 0x7FF, 0xFFFF].foldl (fun rs c => rs.flatMap (cutAfter c)) [r]
  parts.flatMap fun r =>
    if r.2 ≤ 0x7F then [r]
    else [64, 4096, 262144].foldl (fun rs size => rs.flatMap (cutBlocks size)) [r]

def CharSet.byteRanges (s : CharSet) : List (List (Nat × Nat)) :=
  s.ranges.flatMap fun r => (utf8Runs r).map fun run => (utf8Bytes run.1).zip (utf8Bytes run.2)

end LayerAtlas.Unicode
