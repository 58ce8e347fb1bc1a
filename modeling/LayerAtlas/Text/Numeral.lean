
namespace LayerAtlas.Text

def natOfDigits (ds : List Char) : Nat := Nat.ofDigitChars 10 ds 0

def digitsOf (n : Nat) : List Char := Nat.toDigits 10 n

theorem natOfDigits_digitsOf (n : Nat) : natOfDigits (digitsOf n) = n :=
  Nat.ofDigitChars_toDigits (by decide) (by decide)

def padded (width n : Nat) : List Char :=
  List.replicate (width - (digitsOf n).length) '0' ++ digitsOf n

/-- The run of digits at the head of a text, at most `most` of them, and what follows. -/
def spanDigits : Nat → List Char → List Char × List Char
  | 0, s => ([], s)
  | _ + 1, [] => ([], [])
  | most + 1, c :: s =>
    if c.isDigit then
      let (ds, rest) := spanDigits most s
      (c :: ds, rest)
    else ([], c :: s)

def takeNat (least most : Nat) (s : List Char) : Option (Nat × List Char) :=
  let (ds, rest) := spanDigits most s
  if least ≤ ds.length then some (natOfDigits ds, rest) else none

def natOfText (s : List Char) : Option Nat :=
  if s ≠ [] ∧ s.all Char.isDigit then some (natOfDigits s) else none

def boundedNat (most : Nat) (s : String) : Option Nat :=
  let digits := match s.toList with
    | '+' :: r => r
    | r => r
  (natOfText digits).filter (· ≤ most)

/-- A signed number from `least` to `most`; a plus or minus sign may stand in front. -/
def boundedInt (least most : Int) (s : String) : Option Int :=
  let n : Option Int := match s.toList with
    | '+' :: r => (natOfText r).map Int.ofNat
    | '-' :: r => (natOfText r).map fun n => -(n : Int)
    | r => (natOfText r).map Int.ofNat
  n.filter fun n => least ≤ n ∧ n ≤ most

/-- The largest unsigned numbers of 32 and of 64 bits. -/
def maxNat32 : Nat := 4294967295

def maxNat64 : Nat := 18446744073709551615

/-- The largest signed numbers of 32 and of 64 bits; the least is one less than its negative. -/
def maxInt32 : Int := 2147483647

def maxInt64 : Int := 9223372036854775807

def int32 (s : String) : Option Int := boundedInt (-maxInt32 - 1) maxInt32 s

def showInt (n : Int) : String :=
  match n with
  | .ofNat n => String.ofList (digitsOf n)
  | .negSucc n => String.ofList ('-' :: digitsOf (n + 1))

end LayerAtlas.Text
