import LayerAtlas.Unicode.CharSet

namespace LayerAtlas.Pattern

open Unicode

inductive Flag where
  | ignoreCase
  | multiLine
  | dotAll
  | swapGreed
  | allScripts
  | crlf
  | spaced
  deriving DecidableEq, Repr

abbrev Switches := List (Flag × Bool)

/-- A character; `isByte` marks one that is written with two hexadecimal digits. -/
structure Literal where
  char : Char
  isByte : Bool := false
  deriving DecidableEq, Repr

inductive LetterClass where
  | digit
  | blank
  | word
  deriving DecidableEq, Repr

inductive Anchor where
  | lineStart
  | lineEnd
  | textStart
  | textEnd
  | wordBoundary
  | noWordBoundary
  | wordStart
  | wordEnd
  | wordStartHalf
  | wordEndHalf
  deriving DecidableEq, Repr

inductive Atom where
  | literal (l : Literal)
  | dot
  | letter (negated : Bool) (c : LetterClass)
  | property (negated : Bool) (set : CharSet)
  | anchor (a : Anchor)
  deriving DecidableEq, Repr

inductive ClassOp where
  | inter
  | diff
  | symmDiff
  deriving DecidableEq, Repr

/-- What stands between the brackets of a class. Members that follow each other are nested to
the left. -/
inductive Class where
  | nothing
  | atom (a : Atom)
  | range (first last : Literal)
  | named (negated : Bool) (set : CharSet)
  | bracketed (negated : Bool) (c : Class)
  | members (before : Class) (last : Class)
  | joined (op : ClassOp) (left right : Class)
  deriving DecidableEq, Repr

inductive Phrase where
  | empty
  | switches (s : Switches)
  | atom (a : Atom)
  | bracketed (negated : Bool) (c : Class)
  | times (least : Nat) (most : Option Nat) (greedy : Bool) (s : Phrase)
  | group (number : Option Nat) (switches : Switches) (s : Phrase)
  | seq (first rest : Phrase)
  | alt (first rest : Phrase)
  deriving DecidableEq, Repr

def Class.add : Class → Class → Class
  | nothing, c => c
  | before, c => members before c

def Class.depths : Class → Nat × Nat
  | nothing | atom _ | range _ _ | named _ _ => (0, 0)
  | bracketed _ c => (c.depths.1 + 1, c.depths.1 + 1)
  | members before last =>
    let inner := max before.depths.2 last.depths.1
    (inner + 1, inner)
  | joined _ left right =>
    let inner := max left.depths.1 right.depths.1
    (inner + 1, inner + 1)

/-- The depths of a pattern: of all, of the parts that follow each other, and of the
alternatives. -/
structure Depths where
  all : Nat
  parts : Nat
  alternatives : Nat

def Phrase.depths : Phrase → Depths
  | empty | switches _ | atom _ => ⟨0, 0, 0⟩
  | bracketed _ c => let d := c.depths.1 + 1; ⟨d, d, d⟩
  | times _ _ _ s | group _ _ s => let d := s.depths.all + 1; ⟨d, d, d⟩
  | seq first rest =>
    let inner := max first.depths.all rest.depths.parts
    ⟨inner + 1, inner, inner + 1⟩
  | alt first rest =>
    let inner := max first.depths.all rest.depths.alternatives
    ⟨inner + 1, inner + 1, inner⟩

def mostDepth : Nat := 250

end LayerAtlas.Pattern
