import LayerAtlas.Text.Numeral

namespace LayerAtlas

open Text

/-- What a question comes to; without an answer the program stops over it. -/
abbrev Answer (α : Type) := Option α

namespace Answer

/-- A number that has been computed, if it is a signed number of 64 bits. -/
def word (n : Int) : Answer Int := if -maxInt64 - 1 ≤ n ∧ n ≤ maxInt64 then some n else none

def times (a b : Int) : Answer Int := word (a * b)

def quotient (a b : Int) : Answer Int := if b = 0 then none else word (a.tdiv b)

def remainder (a b : Int) : Answer Int := (quotient a b).map fun _ => a.tmod b

end Answer

end LayerAtlas
