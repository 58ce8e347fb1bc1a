import LayerAtlas.Unicode.Property

namespace LayerAtlas.Pattern

open Unicode

/-- A place in a text: what stands before it, backwards, and what follows. -/
structure Place where
  before : List Char
  after : List Char
  deriving DecidableEq, Repr

/-- A condition on a place. Words may be of all scripts or of ASCII, and at lines a carriage
return may end one too. -/
inductive Look where
  | textStart
  | textEnd
  | lineStart (crlf : Bool)
  | lineEnd (crlf : Bool)
  | wordBoundary (allScripts : Bool)
  | noWordBoundary (allScripts : Bool)
  | wordStart (allScripts : Bool)
  | wordEnd (allScripts : Bool)
  | wordStartHalf (allScripts : Bool)
  | wordEndHalf (allScripts : Bool)
  deriving DecidableEq, Repr

def asciiWord : CharSet := .ofRanges [(48, 57), (65, 90), (95, 95), (97, 122)]

def wordSet (allScripts : Bool) : CharSet := if allScripts then word else asciiWord

def startsWord (allScripts : Bool) : List Char → Bool
  | [] => false
  | c :: _ => (wordSet allScripts).mem c.toNat

def Look.holds (p : Place) : Look → Bool
  | textStart => p.before = []
  | textEnd => p.after = []
  | lineStart false => p.before = [] || p.before.head? = some '\n'
  | lineStart true => p.before = [] || p.before.head? = some '\n' ||
      (p.before.head? = some '\r' && p.after.head? ≠ some '\n')
  | lineEnd false => p.after = [] || p.after.head? = some '\n'
  | lineEnd true => p.after = [] || p.after.head? = some '\r' ||
      (p.after.head? = some '\n' && p.before.head? ≠ some '\r')
  | wordBoundary a => startsWord a p.before != startsWord a p.after
  | noWordBoundary a => startsWord a p.before == startsWord a p.after
  | wordStart a => !startsWord a p.before && startsWord a p.after
  | wordEnd a => startsWord a p.before && !startsWord a p.after
  | wordStartHalf a => !startsWord a p.before
  | wordEndHalf a => !startsWord a p.after

/-- A regular expression. What follows each other is nested to the right, and so are
alternatives. -/
inductive Expr where
  | empty
  | text (cs : List Char)
  | one (set : CharSet)
  | look (l : Look)
  | group (number : Nat) (e : Expr)
  /-- At least `least` times, at most `most` times if that is given, as often as possible if
  `greedy`. -/
  | times (least : Nat) (most : Option Nat) (greedy : Bool) (e : Expr)
  | seq (a b : Expr)
  | alt (a b : Expr)
  deriving DecidableEq, Repr

def distinct : List Place → List Place
  | [] => []
  | p :: ps =>
    let rest := distinct ps
    if rest.any fun q => q.after.length = p.after.length then rest else p :: rest

/-- The places after exactly `n` steps, or after fewer where more steps change nothing. -/
def stepTimes (step : List Place → List Place) : Nat → List Place → List Place
  | 0, ps => ps
  | n + 1, ps =>
    let next := step ps
    if next = ps then ps else stepTimes step n next

def stepUpTo (step : List Place → List Place) : Nat → List Place → List Place
  | 0, ps => ps
  | n + 1, ps =>
    let next := distinct (step ps ++ ps)
    if next.length = ps.length then ps else stepUpTo step n next

def Place.past? (p : Place) : List Char → Option Place
  | [] => some p
  | c :: cs =>
    match p.after with
    | [] => none
    | d :: rest => if c = d then past? { before := d :: p.before, after := rest } cs else none

namespace Expr

/-- The places at which a match that starts at a place can end. -/
def ends : Expr → Place → List Place
  | empty, p => [p]
  | text cs, p => (p.past? cs).toList
  | one set, p =>
    match p.after with
    | [] => []
    | c :: rest => if set.mem c.toNat then [{ before := c :: p.before, after := rest }] else []
  | look l, p => if l.holds p then [p] else []
  | group _ e, p => e.ends p
  | times least most _ e, p =>
    let step (ps : List Place) := distinct (ps.flatMap e.ends)
    stepUpTo step ((most.map (· - least)).getD (p.after.length + 1)) (stepTimes step least [p])
  | seq a b, p => distinct ((a.ends p).flatMap b.ends)
  | alt a b, p => distinct (a.ends p ++ b.ends p)

def placesFrom (before : List Char) : List Char → List Place
  | [] => [{ before, after := [] }]
  | c :: rest => { before, after := c :: rest } :: placesFrom (c :: before) rest

def isMatch (e : Expr) (text : String) : Bool :=
  (placesFrom [] text.toList).any fun p => !(e.ends p).isEmpty

def leastSize : Expr → Option Nat
  | empty | look _ => some 0
  | text cs => some (cs.map Char.utf8Size).sum
  | one set => set.ranges.head?.map fun r => (Char.ofNat r.1).utf8Size
  | group _ e => e.leastSize
  | times least _ _ e => e.leastSize.map (least * ·)
  | seq a b => do some ((← a.leastSize) + (← b.leastSize))
  | alt a b => do some (min (← a.leastSize) (← b.leastSize))

def isBlank : Expr → Bool
  | empty | look _ => true
  | text cs => cs = []
  | one _ => false
  | group _ e => e.isBlank
  | times _ most _ e => most = some 0 || e.isBlank
  | seq a b | alt a b => a.isBlank && b.isBlank

def startsAt (l : Look) : Expr → Bool
  | look m => l = m
  | group _ e => e.startsAt l
  | times least _ _ e => 0 < least && e.startsAt l
  | seq a b => a.startsAt l || (a.isBlank && b.startsAt l)
  | alt a b => a.startsAt l && b.startsAt l
  | _ => false

def endsAt (l : Look) : Expr → Bool
  | look m => l = m
  | group _ e => e.endsAt l
  | times least _ _ e => 0 < least && e.endsAt l
  | seq a b => b.endsAt l || (b.isBlank && a.endsAt l)
  | alt a b => a.endsAt l && b.endsAt l
  | _ => false

def ofSet (set : CharSet) : Expr :=
  match set.single? with
  | some c => text [Char.ofNat c]
  | none => one set

def never : Expr := one .empty

def andThen : Expr → Expr → Expr
  | empty, e => e
  | seq a b, e => seq a (b.andThen e)
  | e, empty => e
  | text cs, text ds => text (cs ++ ds)
  | text cs, seq (text ds) e => seq (text (cs ++ ds)) e
  | a, b => seq a b

def factors : Expr → List Expr
  | seq a b => a :: b.factors
  | e => [e]

def ofFactors (es : List Expr) : Expr := es.foldr andThen empty

def alternatives : Expr → List Expr
  | alt a b => a :: b.alternatives
  | e => [e]

def ofAlternatives : List Expr → Expr
  | [] => never
  | [e] => e
  | e :: es => alt e (ofAlternatives es)

def single? : Expr → Option Char
  | text [c] => some c
  | _ => none

def set? : Expr → Option CharSet
  | one set => some set
  | _ => none

def anyOf (es : List Expr) : Expr :=
  match es.mapM single?, es.mapM set? with
  | some cs, _ => ofSet (.ofChars cs)
  | _, some sets => ofSet (sets.foldl CharSet.union .empty)
  | _, _ => ofAlternatives es

def commonPrefix : List Expr → List Expr → List Expr
  | a :: as, b :: bs => if a = b then a :: commonPrefix as bs else []
  | _, _ => []

def sharedFactors : List Expr → List Expr
  | e :: f :: es =>
    if (e :: f :: es).all fun g => 1 < g.factors.length then
      (f :: es).foldl (fun shared g => commonPrefix shared g.factors) e.factors
    else []
  | _ => []

def either (es : List Expr) : Expr :=
  let es := es.flatMap alternatives
  match sharedFactors es with
  | [] => anyOf es
  | shared =>
    let rests := es.map fun e => ofFactors (e.factors.drop shared.length)
    ofFactors (shared ++ [anyOf (rests.flatMap alternatives)])

def repeated (least : Nat) (most : Option Nat) (greedy : Bool) (e : Expr) : Expr :=
  let (least, most) :=
    if e.isBlank then (min least 1, some (min (most.getD 1) 1)) else (least, most)
  if most = some 0 then empty
  else if least = 1 ∧ most = some 1 then e
  else times least most greedy e

end Expr

end LayerAtlas.Pattern
