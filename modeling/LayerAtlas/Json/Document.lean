import LayerAtlas.Text.Numeral

namespace LayerAtlas.Json

open Text

structure Numeral where
  negative : Bool
  whole : List Char
  places : List Char
  exponent : Option Int
  text : String
  deriving DecidableEq, Repr

def Numeral.isWhole (n : Numeral) : Bool := n.places = [] && n.exponent = none

inductive Node where
  | null
  | bool (b : Bool)
  | number (n : Numeral)
  | text (s : Option String)
  | array (items : List Node)
  | object (members : List (Option String × Node))

def isSpace (c : Char) : Bool := c = ' ' || c = '\n' || c = '\t' || c = '\r'

def skipSpace (s : List Char) : List Char := s.dropWhile isSpace

def hexValue (c : Char) : Option Nat :=
  if c.isDigit then some (c.toNat - 48)
  else if 'a' ≤ c ∧ c ≤ 'f' then some (c.toNat - 87)
  else if 'A' ≤ c ∧ c ≤ 'F' then some (c.toNat - 55)
  else none

def readHex : List Char → Option (Nat × List Char)
  | a :: b :: c :: d :: rest => do
    let a ← hexValue a
    let b ← hexValue b
    let c ← hexValue c
    let d ← hexValue d
    some (((a * 16 + b) * 16 + c) * 16 + d, rest)
  | _ => none

inductive TextUnit where
  | char (c : Char)
  | high (n : Nat)
  | low (n : Nat)

def TextUnit.ofCode (n : Nat) : TextUnit :=
  if 0xD800 ≤ n ∧ n < 0xDC00 then high (n - 0xD800)
  else if 0xDC00 ≤ n ∧ n < 0xE000 then low (n - 0xDC00)
  else char (Char.ofNat n)

def escaped (c : Char) : Option Char :=
  match c with
  | '"' => some '"'
  | '\\' => some '\\'
  | '/' => some '/'
  | 'b' => some '\x08'
  | 'f' => some '\x0c'
  | 'n' => some '\n'
  | 'r' => some '\r'
  | 't' => some '\t'
  | _ => none

def readUnit : List Char → Option (TextUnit × List Char)
  | [] => none
  | '\\' :: 'u' :: s => (readHex s).map fun (n, rest) => (.ofCode n, rest)
  | '\\' :: c :: s => (escaped c).map fun c => (.char c, s)
  | c :: s => if c.toNat < 32 ∨ c = '\\' then none else some (.char c, s)

def readUnits : Nat → List Char → Option (List TextUnit × List Char)
  | 0, _ => none
  | _ + 1, '"' :: s => some ([], s)
  | fuel + 1, s => do
    let (u, s) ← readUnit s
    let (us, s) ← readUnits fuel s
    some (u :: us, s)

/-- Joins the two halves of each pair; a half that stands alone has no text. -/
def joinUnits : List TextUnit → Option (List Char)
  | [] => some []
  | .char c :: us => (joinUnits us).map (c :: ·)
  | .high h :: .low l :: us => (joinUnits us).map (Char.ofNat (0x10000 + h * 1024 + l) :: ·)
  | _ => none

def readString (s : List Char) : Option (Option String × List Char) :=
  (readUnits (s.length + 1) s).map fun (us, rest) => ((joinUnits us).map String.ofList, rest)

def readPlaces : List Char → Option (List Char × List Char)
  | '.' :: s =>
    let places := s.takeWhile Char.isDigit
    if places = [] then none else some (places, s.dropWhile Char.isDigit)
  | s => some ([], s)

def readExponent : List Char → Option (Option Int × List Char)
  | [] => some (none, [])
  | c :: s =>
    if c = 'e' ∨ c = 'E' then
      let (negative, s) := match s with
        | '-' :: r => (true, r)
        | '+' :: r => (false, r)
        | r => (false, r)
      let digits := s.takeWhile Char.isDigit
      let n : Int := natOfDigits digits
      if digits = [] then none
      else some (some (if negative then -n else n), s.dropWhile Char.isDigit)
    else some (none, c :: s)

def readNumber (s : List Char) : Option (Numeral × List Char) := do
  let (negative, r) := match s with
    | '-' :: r => (true, r)
    | r => (false, r)
  let whole := r.takeWhile Char.isDigit
  if whole = [] ∨ (whole.head? = some '0' ∧ whole ≠ ['0']) then none
  let (places, r) ← readPlaces (r.dropWhile Char.isDigit)
  let (exponent, r) ← readExponent r
  let text := String.ofList (s.take (s.length - r.length))
  some ({ negative, whole, places, exponent, text }, r)

def afterWord (word s : List Char) : Option (List Char) :=
  if word.isPrefixOf s then some (s.drop word.length) else none

mutual

def readNode : Nat → List Char → Option (Node × List Char)
  | 0, _ => none
  | fuel + 1, s =>
    match s with
    | [] => none
    | '"' :: s => (readString s).map fun (t, rest) => (.text t, rest)
    | '[' :: s =>
      match skipSpace s with
      | ']' :: rest => some (.array [], rest)
      | s => (readItems fuel s).map fun (items, rest) => (.array items, rest)
    | '{' :: s =>
      match skipSpace s with
      | '}' :: rest => some (.object [], rest)
      | s => (readMembers fuel s).map fun (members, rest) => (.object members, rest)
    | 't' :: s => (afterWord ['r', 'u', 'e'] s).map fun rest => (.bool true, rest)
    | 'f' :: s => (afterWord ['a', 'l', 's', 'e'] s).map fun rest => (.bool false, rest)
    | 'n' :: s => (afterWord ['u', 'l', 'l'] s).map fun rest => (.null, rest)
    | s => (readNumber s).map fun (n, rest) => (.number n, rest)

def readItems : Nat → List Char → Option (List Node × List Char)
  | 0, _ => none
  | fuel + 1, s => do
    let (item, s) ← readNode fuel s
    match skipSpace s with
    | ']' :: rest => some ([item], rest)
    | ',' :: s =>
      let (items, rest) ← readItems fuel (skipSpace s)
      some (item :: items, rest)
    | _ => none

def readMembers : Nat → List Char → Option (List (Option String × Node) × List Char)
  | 0, _ => none
  | fuel + 1, s =>
    match s with
    | '"' :: s => do
      let (key, s) ← readString s
      match skipSpace s with
      | ':' :: s =>
        let (value, s) ← readNode fuel (skipSpace s)
        match skipSpace s with
        | '}' :: rest => some ([(key, value)], rest)
        | ',' :: s =>
          let (members, rest) ← readMembers fuel (skipSpace s)
          some ((key, value) :: members, rest)
        | _ => none
      | _ => none
    | _ => none

end

def read (text : String) : Option Node :=
  match readNode (text.length + 1) (skipSpace text.toList) with
  | some (node, rest) => if skipSpace rest = [] then some node else none
  | none => none

end LayerAtlas.Json
