import LayerAtlas.Pattern.Expression
import LayerAtlas.Unicode.Utf8
import Std.Data.HashMap

namespace LayerAtlas.Pattern

open Unicode

structure Tally where
  states : Nat
  bytes : Nat

/-- The most bytes that an automaton may take. A state takes 32, an arrow without a byte 4, and
an arrow of a state with several arrows for bytes 8. -/
def mostBytes : Nat := 10485760

/-- Nothing stands for an automaton that takes more than the limit. -/
abbrev Grow := Tally → Option Tally

namespace Tally

def add (states arrows : Nat) : Grow := fun t =>
  let bytes := t.bytes + 32 * states + arrows
  if bytes ≤ mostBytes then some { states := t.states + states, bytes } else none

def state : Grow := add 1 0

def fork : Grow := add 1 8

def link (n : Nat) : Grow := add 0 (4 * n)

def several (grow : Grow) : Nat → Grow
  | 0, t => some t
  | n + 1, t => (grow t).bind (several grow n)

end Tally

open Tally

def placeOf (size : Nat) (key : List Nat) : Nat :=
  let mix (h : UInt64) (n : Nat) : UInt64 := (h ^^^ n.toUInt64) * 1099511628211
  (key.foldl mix 14695981039346656037).toNat % size

/-- States that are known by what they do, by the places of their keys; a place keeps the last
one only. -/
abbrev Known := Std.HashMap Nat (List Nat × Nat)

def share (size : Nat) (key : List Nat) (arrows : Nat) (known : Known) (t : Tally) :
    Option (Nat × Known × Tally) :=
  let place := placeOf size key
  match known[place]?.filter fun found => found.1 = key with
  | some found => some (found.2, known, t)
  | none => (add 1 arrows t).map fun next =>
    (t.states, known.insert place (key, t.states), next)

/-- A state that still grows: its arrows as first byte, last byte and target, and the range of
an arrow whose target is not known yet. -/
structure Open where
  arrows : List (Nat × Nat × Nat)
  last : Option (Nat × Nat)

def Open.settled (o : Open) (target : Nat) : List (Nat × Nat × Nat) :=
  o.arrows ++ (o.last.map fun r => (r.1, r.2, target)).toList

def keyOf (arrows : List (Nat × Nat × Nat)) : List Nat :=
  arrows.flatMap fun a => [a.1, a.2.1, a.2.2]

def settle (target : Nat) : List Open → Known → Tally → Option (Nat × Known × Tally)
  | [], known, t => some (target, known, t)
  | o :: rest, known, t => do
    let (next, known, t) ← settle target rest known t
    let arrows := o.settled next
    share 10000 (keyOf arrows) (8 * arrows.length) known t

def addRun (target : Nat) : List Open → List (Nat × Nat) → Known → Tally →
    Option (List Open × Known × Tally)
  | o :: rest, r :: run, known, t =>
    if o.last = some r then do
      let (rest, known, t) ← addRun target rest run known t
      some (o :: rest, known, t)
    else do
      let (next, known, t) ← settle target rest known t
      some ({ arrows := o.settled next, last := some r } :: run.map fun r =>
        ⟨[], some r⟩, known, t)
  | os, _, known, t => some (os, known, t)

def addRuns (target : Nat) : List (List (Nat × Nat)) → List Open → Known → Tally →
    Option (List Open × Known × Tally)
  | [], os, known, t => some (os, known, t)
  | run :: runs, os, known, t => do
    let (os, known, t) ← addRun target os run known t
    addRuns target runs os known t

def setForwards (set : CharSet) : Grow := fun t => do
  let target := t.states
  let (os, known, t) ← addRuns target set.byteRanges [⟨[], none⟩] ∅ (← state t)
  let (_, _, t) ← settle target os known t
  some t

def addChain (start : Nat) : List (Nat × Nat) → Known → Tally → Option (Known × Tally)
  | [], known, t => some (known, t)
  | r :: run, known, t => do
    let (id, known, t) ← share 1000 [start, r.1, r.2] 0 known t
    addChain id run known t

def addChains (start : Nat) : List (List (Nat × Nat)) → Known → Grow
  | [], _, t => some t
  | run :: runs, known, t => do
    let (known, t) ← addChain start run known t
    addChains start runs known (← link 1 t)

def setBackwards (set : CharSet) : Grow := fun t => do
  let t ← add 2 0 t
  addChains (t.states - 1) set.byteRanges ∅ t

/-- One character of a set. In ASCII it takes one state for all and one to go on from. -/
def growSet (backwards : Bool) (set : CharSet) : Grow :=
  if set.isAscii then add 2 (8 * set.ranges.length)
  else if backwards then setBackwards set
  else setForwards set

def splitAtEnds : List (List UInt8) → List (List (List UInt8))
  | [] => [[]]
  | [] :: words => [] :: splitAtEnds words
  | word :: words =>
    match splitAtEnds words with
    | chunk :: chunks => (word :: chunk) :: chunks
    | [] => [[word]]

def tailsByHead (words : List (List UInt8)) : List (List (List UInt8)) :=
  (words.filterMap List.head?).eraseDups.map fun b => words.filterMap fun
    | [] => none
    | c :: rest => if c = b then some rest else none

/-- A tree of words: a state for each part of the branches of a node that ends with a word, and
one that joins them. `depth` is more than the length of the words. -/
def growTree : Nat → List (List UInt8) → Grow
  | 0, _, t => some t
  | depth + 1, words, t =>
    let words := match words with
      | [] :: rest => [] :: rest.dropWhile (· = [])
      | words => words
    let chunks := (splitAtEnds words).map tailsByHead
    let branches := chunks.flatten.filter fun tails => tails.any (· ≠ [])
    let full := chunks.filter (· ≠ [])
    let wide := full.filter fun chunk => 1 < chunk.length
    (branches.foldlM (fun t tails => growTree depth tails t) t).bind
      (add (full.length + 1) (8 * wide.flatten.length + 4 * (full.length + chunks.length - 1)))

def textsOf? (backwards : Bool) (es : List Expr) : Option (List (List UInt8)) :=
  es.mapM fun
    | .text cs =>
      let bytes := cs.flatMap String.utf8EncodeChar
      some (if backwards then bytes.reverse else bytes)
    | _ => none

def growEither : List Grow → Grow
  | [] => state
  | [g] => g
  | g :: h :: others => fun t => do
    let t ← add 2 (4 * (others.length + 2)) (← h (← g t))
    others.foldlM (fun t other => other t) t

def growOne (backwards : Bool) (e : Expr) (alternatives : List Grow) : Grow := fun t =>
  match e, textsOf? backwards e.alternatives with
  | .alt _ _, some words => do growTree (words.flatten.length + 1) words (← state t)
  | _, _ => growEither alternatives t

def growTimes (least : Nat) (most : Option Nat) (hasBytes : Bool) (g : Grow) : Grow := fun t =>
  match least, most with
  | 0, some 1 => do state (← g (← fork t))
  | 0, none => do if hasBytes then g (← fork t) else add 3 16 (← g t)
  | least, none => do fork (← several g least t)
  | least, some most => do
    let t ← several g least (← if least = 0 then state t else some t)
    if least = most then some t
    else several (fun t => do g (← fork t)) (most - least) (← state t)

namespace Expr

def grow (backwards : Bool) : Expr → List Grow
  | empty | look _ => [state]
  | text cs => [add (cs.map Char.utf8Size).sum 0]
  | one set => [growSet backwards set]
  | group _ e =>
    let inner := growOne backwards e (e.grow backwards)
    [if backwards then inner else fun t => do state (← inner (← state t))]
  | times least most _ e =>
    [growTimes least most (e.leastSize.any (0 < ·)) (growOne backwards e (e.grow backwards))]
  | seq a b =>
    let first := growOne backwards a (a.grow backwards)
    let second := growOne backwards b (b.grow backwards)
    [fun t => do if backwards then first (← second t) else second (← first t)]
  | alt a b => a.grow backwards ++ b.grow backwards

/-- The automaton of an expression that may match anywhere. Where all matches start at the end
of the text from which it is read, one state leads in; else any bytes may come before. -/
def automaton? (backwards : Bool) (e : Expr) : Option Tally := do
  let anchored := if backwards then e.endsAt .textEnd else e.startsAt .textStart
  let t ← (if anchored then state else add 3 16) { states := 0, bytes := 0 }
  let whole := if backwards then e else .group 0 e
  state (← growOne backwards whole (whole.grow backwards) t)

def isWordList (e : Expr) : Bool :=
  3000 ≤ e.alternatives.length && (textsOf? false e.alternatives).isSome

def fits (e : Expr) : Bool :=
  e.isWordList || ((e.automaton? false).isSome && (e.automaton? true).isSome)

end Expr

end LayerAtlas.Pattern
