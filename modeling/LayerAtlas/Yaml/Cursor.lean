
namespace LayerAtlas.Yaml

def isAllowed (c : Char) : Bool :=
  let n := c.toNat
  c = '\t' || c = '\n' || c = '\r' || (0x20 ≤ n && n ≤ 0x7E) || n = 0x85 ||
    (0xA0 ≤ n && n ≤ 0xFFFD)
    || 0x10000 ≤ n

def isBreak (c : Char) : Bool :=
  c = '\n' || c = '\r' || c = '\u0085' || c = '\u2028' || c = '\u2029'

def isBlank (c : Char) : Bool := c = ' ' || c = '\t'

/-- What the break at the head of a text is read as: only the separators stay what they are. -/
def breakText (c : Char) : Char := if c = '\u2028' || c = '\u2029' then c else '\n'

def isWord (c : Char) : Bool := c.isAlphanum || c = '_' || c = '-'

structure Cursor where
  rest : List Char
  index : Nat := 0
  line : Nat := 0
  column : Nat := 0

namespace Cursor

def at? (c : Cursor) (distance : Nat) : Option Char := c.rest[distance]?

def head? (c : Cursor) : Option Char := c.rest.head?

def sees (c : Cursor) (distance : Nat) (kind : Char → Bool) : Bool := (c.at? distance).any kind

def gapAt (c : Cursor) (distance : Nat) : Bool :=
  (c.at? distance).all fun x => isBlank x || isBreak x

def atLineEnd (c : Cursor) : Bool := c.head?.all isBreak

def skip (c : Cursor) (count : Nat) : Cursor :=
  { c with rest := c.rest.drop count, index := c.index + count, column := c.column + count }

def span (c : Cursor) (kind : Char → Bool) : List Char × Cursor :=
  let found := c.rest.takeWhile kind
  (found, c.skip found.length)

def skipWhile (c : Cursor) (kind : Char → Bool) : Cursor := (c.span kind).2

/-- Goes to the next line if a break comes next. A carriage return and a line feed are one
break. -/
def skipBreak (c : Cursor) : Cursor :=
  match c.rest with
  | '\r' :: '\n' :: rest => { rest, index := c.index + 2, line := c.line + 1, column := 0 }
  | x :: rest =>
    if isBreak x then { rest, index := c.index + 1, line := c.line + 1, column := 0 } else c
  | [] => c

def breakHere (c : Cursor) : List Char := (c.head?.filter isBreak).toList.map breakText

def skipLine (c : Cursor) : Cursor := c.skipWhile fun x => !isBreak x

def finishLine (c : Cursor) : Option Cursor :=
  let c := c.skipWhile isBlank
  let c := if c.head? = some '#' then c.skipLine else c
  if c.atLineEnd then some c.skipBreak else none

def atMark (c : Cursor) (mark : Char) : Bool :=
  c.column = 0 && c.rest.take 3 = [mark, mark, mark] && c.gapAt 3

def atBoundary (c : Cursor) : Bool := c.atMark '-' || c.atMark '.'

end Cursor

end LayerAtlas.Yaml
