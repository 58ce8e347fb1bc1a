import LayerAtlas.Pattern.Footprint
import LayerAtlas.Pattern.Reader
import LayerAtlas.Unicode.CaseFold

namespace LayerAtlas.Pattern

open Unicode

structure Flags where
  ignoreCase : Bool := false
  multiLine : Bool := false
  dotAll : Bool := false
  swapGreed : Bool := false
  allScripts : Bool := true
  crlf : Bool := false

namespace Flags

def set (f : Flags) (flag : Flag) (on : Bool) : Flags :=
  match flag with
  | .ignoreCase => { f with ignoreCase := on }
  | .multiLine => { f with multiLine := on }
  | .dotAll => { f with dotAll := on }
  | .swapGreed => { f with swapGreed := on }
  | .allScripts => { f with allScripts := on }
  | .crlf => { f with crlf := on }
  | .spaced => f

def after (f : Flags) (s : Switches) : Flags :=
  s.foldl (fun f change => f.set change.1 change.2) f

def fold (f : Flags) (set : CharSet) : CharSet :=
  if ¬ f.ignoreCase then set
  else if f.allScripts then set.fold
  else set.fold.inter .ascii

/-- A set or all that is not in it. No set of bytes of ASCII alone has the others left over. -/
def negate? (f : Flags) (negated : Bool) (set : CharSet) : Option CharSet :=
  if ¬ negated then some set else if f.allScripts then some set.negate else none

def member? (f : Flags) (l : Literal) : Option Nat :=
  if f.allScripts ∨ l.char.toNat < 128 then some l.char.toNat else none

end Flags

def LetterClass.set (allScripts : Bool) : LetterClass → CharSet
  | digit => if allScripts then ofCategories ["Nd"] else .ofRanges [(48, 57)]
  | blank => if allScripts then listed "whitespace" else .ofRanges [(9, 13), (32, 32)]
  | word => wordSet allScripts

def Atom.set? (f : Flags) : Atom → Option CharSet
  | literal l => (f.member? l).map .single
  | letter negated c => f.negate? negated (c.set f.allScripts)
  | property negated set => if f.allScripts then f.negate? negated (f.fold set) else none
  | dot | anchor _ => none

def Class.set? (f : Flags) : Class → Option CharSet
  | nothing => some .empty
  | atom a => a.set? f
  | range first last => do some (.ofRanges [(← f.member? first, ← f.member? last)])
  | named negated set => f.negate? negated (f.fold set)
  | bracketed negated c => do f.negate? negated (f.fold (← c.set? f))
  | members before last => do some ((← before.set? f).union (← last.set? f))
  | joined op left right => do
    let l := f.fold (← left.set? f)
    let r := f.fold (← right.set? f)
    match op with
    | .inter => some (l.inter r)
    | .diff => some (l.diff r)
    | .symmDiff => some (l.symmDiff r)

def Anchor.look (f : Flags) : Anchor → Look
  | lineStart => if f.multiLine then .lineStart f.crlf else .textStart
  | lineEnd => if f.multiLine then .lineEnd f.crlf else .textEnd
  | textStart => .textStart
  | textEnd => .textEnd
  | wordBoundary => .wordBoundary f.allScripts
  | noWordBoundary => .noWordBoundary f.allScripts
  | wordStart => .wordStart f.allScripts
  | wordEnd => .wordEnd f.allScripts
  | wordStartHalf => .wordStartHalf f.allScripts
  | wordEndHalf => .wordEndHalf f.allScripts

def dotSet (f : Flags) : CharSet :=
  if f.dotAll then .all else (CharSet.ofChars (if f.crlf then ['\r', '\n'] else ['\n'])).negate

def Literal.toExpr? (f : Flags) (l : Literal) : Option Expr :=
  let c := l.char.toNat
  if ¬ f.allScripts ∧ l.isByte ∧ 127 < c then none
  else if f.ignoreCase ∧ hasCase c ∧ (f.allScripts ∨ c < 128) then
    some (.one (f.fold (.single c)))
  else some (.text [l.char])

def Atom.toExpr? (f : Flags) : Atom → Option Expr
  | literal l => l.toExpr? f
  | dot => if f.allScripts then some (.ofSet (dotSet f)) else none
  | anchor a => some (.look (a.look f))
  | a => (a.set? f).map .ofSet

def exprOf : List Expr → Expr
  | [e] => e
  | es => .either es

def Phrase.alternatives? (f : Flags) : Phrase → Option (List Expr × Flags)
  | empty => some ([.empty], f)
  | switches s => some ([.empty], f.after s)
  | atom a => do some ([← a.toExpr? f], f)
  | bracketed negated c => do some ([.ofSet (← (Class.bracketed negated c).set? f)], f)
  | times least most greedy p => do
    let (es, f) ← p.alternatives? f
    some ([.repeated least most (greedy != f.swapGreed) (exprOf es)], f)
  | group number s p => do
    let (es, _) ← p.alternatives? (f.after s)
    let e := exprOf es
    some ([match number with | some n => .group n e | none => e], f)
  | seq first rest => do
    let (as, f) ← first.alternatives? f
    let (bs, f) ← rest.alternatives? f
    some ([(exprOf as).andThen (exprOf bs)], f)
  | alt first rest => do
    let (as, f) ← first.alternatives? f
    let (bs, f) ← rest.alternatives? f
    some (as ++ bs, f)

/-- Reads a pattern in which case does not matter unless it says so. -/
def read (text : String) : Option Expr := do
  let (es, _) ← (← Phrase.ofText? text).alternatives? { ignoreCase := true }
  let e := exprOf es
  if e.fits then some e else none

end LayerAtlas.Pattern
