import LayerAtlas.Pattern.NamedSet
import LayerAtlas.Pattern.Phrase
import LayerAtlas.Text.Blank
import LayerAtlas.Text.Numeral
import LayerAtlas.Unicode.Letter

namespace LayerAtlas.Pattern

open Text Unicode

/-- What is known at a point of a pattern: whether blanks count, how many groups have a number,
and which names they have taken. -/
structure Scope where
  spaced : Bool := false
  groups : Nat := 0
  names : List (List Char) := []

def skipBlanks (inComment : Bool) : List Char → List Char
  | [] => []
  | c :: s =>
    if inComment then skipBlanks (c ≠ '\n') s
    else if isBlank c then skipBlanks false s
    else if c = '#' then skipBlanks true s
    else c :: s

def skip (spaced : Bool) (s : List Char) : List Char := if spaced then skipBlanks false s else s

def isMeta (c : Char) : Bool := "\\.+*?()|[]\x7b\x7d^$#&-~".toList.elem c

def isEscapable (c : Char) : Bool :=
  isMeta c || (c.toNat < 128 && !c.isAlphanum && c ≠ '<' && c ≠ '>')

def hexDigit? (c : Char) : Option Nat :=
  if c.isDigit then some (c.toNat - 48)
  else if 'a' ≤ c ∧ c ≤ 'f' then some (c.toNat - 87)
  else if 'A' ≤ c ∧ c ≤ 'F' then some (c.toNat - 55)
  else none

def charOf? (n : Nat) : Option Char := if n.isValidChar then some (Char.ofNat n) else none

def readHexDigits (spaced : Bool) (acc : Nat) : Nat → List Char → Option (Nat × List Char)
  | 0, s => some (acc, s)
  | n + 1, s =>
    match s with
    | [] => none
    | c :: s => (hexDigit? c).bind fun d =>
      readHexDigits spaced (acc * 16 + d) n (skip spaced s)

def readHexBrace (spaced : Bool) (acc : Option Nat) : Nat → List Char → Option (Nat × List Char)
  | 0, _ => none
  | fuel + 1, s =>
    match s with
    | [] => none
    | '}' :: s => acc.map fun n => (n, skip spaced s)
    | c :: s => (hexDigit? c).bind fun d =>
      readHexBrace spaced (some (acc.getD 0 * 16 + d)) fuel (skip spaced s)

def readHex (spaced : Bool) (letter : Char) (s : List Char) : Option (Literal × List Char) :=
  match skip spaced s with
  | '{' :: s => do
    let (n, rest) ← readHexBrace spaced none (s.length + 1) (skip spaced s)
    some (⟨← charOf? n, false⟩, rest)
  | s => do
    let digits := if letter = 'x' then 2 else if letter = 'u' then 4 else 8
    let (n, rest) ← readHexDigits spaced 0 digits s
    some (⟨← charOf? n, letter = 'x'⟩, rest)

def readBraced (spaced : Bool) : Nat → List Char → Option (List Char × List Char)
  | 0, _ => none
  | fuel + 1, s =>
    match s with
    | [] => none
    | '}' :: s => some ([], s)
    | c :: s => (readBraced spaced fuel (skip spaced s)).map fun (name, rest) =>
      (c :: name, rest)

def splitAt? (mark : List Char) : List Char → Option (List Char × List Char)
  | [] => none
  | c :: s =>
    if mark.isPrefixOf (c :: s) then some ([], (c :: s).drop mark.length)
    else (splitAt? mark s).map fun (a, b) => (c :: a, b)

def propertySet? (name : List Char) : Option (Bool × CharSet) :=
  match splitAt? ['!', '='] name with
  | some (p, v) => (valuedSet? p v).map fun set => (true, set)
  | none =>
    match (splitAt? [':'] name).or (splitAt? ['='] name) with
    | some (p, v) => (valuedSet? p v).map fun set => (false, set)
    | none => (namedSet? name).map fun set => (false, set)

def readProperty (spaced : Bool) (negated : Bool) (s : List Char) : Option (Atom × List Char) :=
  match skip spaced s with
  | [] | '\\' :: _ => none
  | '{' :: s => do
    let (name, rest) ← readBraced spaced (s.length + 1) (skip spaced s)
    let (others, set) ← propertySet? name
    some (.property (negated != others) set, rest)
  | c :: s => (namedSet? [c]).map fun set => (.property negated set, skip spaced s)

def readBoundaryName (spaced : Bool) : Nat → List Char → List Char × List Char
  | 0, s => ([], s)
  | fuel + 1, s =>
    match s with
    | [] => ([], [])
    | c :: r =>
      if c.isAlpha ∨ c = '-' then
        let (name, rest) := readBoundaryName spaced fuel (skip spaced r)
        (c :: name, rest)
      else ([], c :: r)

/-- A word boundary, with what it is narrowed down to between braces; braces that hold something
else are left for a repetition. -/
def readBoundary (spaced : Bool) (s : List Char) : Option (Atom × List Char) :=
  match s with
  | '{' :: r =>
    match skip spaced r with
    | [] => none
    | c :: r =>
      if c.isAlpha ∨ c = '-' then
        match readBoundaryName spaced (r.length + 2) (c :: r) with
        | (name, '}' :: rest) =>
          let anchor := List.lookup (String.ofList name)
            [("start", Anchor.wordStart), ("end", .wordEnd), ("start-half", .wordStartHalf),
             ("end-half", .wordEndHalf)]
          anchor.map fun a => (.anchor a, rest)
        | _ => none
      else some (.anchor .wordBoundary, s)
  | s => some (.anchor .wordBoundary, s)

def readEscape (spaced : Bool) : List Char → Option (Atom × List Char)
  | [] => none
  | c :: s =>
    let literal (c : Char) : Option (Atom × List Char) := some (.literal ⟨c, false⟩, s)
    let anchor (a : Anchor) : Option (Atom × List Char) := some (.anchor a, s)
    if c = 'x' ∨ c = 'u' ∨ c = 'U' then
      (readHex spaced c s).map fun (l, rest) => (.literal l, rest)
    else if c = 'p' ∨ c = 'P' then readProperty spaced (c = 'P') s
    else if isEscapable c then literal c
    else match c with
      | 'd' => some (.letter false .digit, s)
      | 'D' => some (.letter true .digit, s)
      | 's' => some (.letter false .blank, s)
      | 'S' => some (.letter true .blank, s)
      | 'w' => some (.letter false .word, s)
      | 'W' => some (.letter true .word, s)
      | 'a' => literal '\x07'
      | 'f' => literal '\x0c'
      | 't' => literal '\t'
      | 'n' => literal '\n'
      | 'r' => literal '\r'
      | 'v' => literal '\x0b'
      | 'A' => anchor .textStart
      | 'z' => anchor .textEnd
      | 'b' => readBoundary spaced s
      | 'B' => anchor .noWordBoundary
      | '<' => anchor .wordStart
      | '>' => anchor .wordEnd
      | _ => none

def readNamedClass (s : List Char) : Option (Class × List Char) :=
  match s with
  | ':' :: s =>
    let (negated, s) := match s with
      | '^' :: s => (true, s)
      | s => (false, s)
    match s.dropWhile (· ≠ ':') with
    | ':' :: ']' :: rest =>
      (asciiClass? (String.ofList (s.takeWhile (· ≠ ':')))).map fun set =>
        (.named negated set, rest)
    | _ => none
  | _ => none

def readClassAtom (spaced : Bool) : List Char → Option (Atom × List Char)
  | [] => none
  | '\\' :: s => readEscape spaced s
  | c :: s => some (.literal ⟨c, false⟩, s)

def Atom.toClass? : Atom → Option Class
  | dot | anchor _ => none
  | a => some (.atom a)

def Atom.toLiteral? : Atom → Option Literal
  | literal l => some l
  | _ => none

/-- The next character that counts after a dash. A comment is only looked into up to its first
character. -/
def peekAfterDash (spaced : Bool) (s : List Char) : Option Char :=
  if spaced then
    match s.dropWhile isBlank with
    | '#' :: rest => ((rest.dropWhile isBlank).head?).or s.head?
    | rest => rest.head?.or s.head?
  else s.head?

def readClassRange (spaced : Bool) (s : List Char) : Option (Class × List Char) := do
  let (first, s) ← readClassAtom spaced s
  match skip spaced s with
  | [] => none
  | '-' :: r =>
    if peekAfterDash spaced r = some ']' ∨ peekAfterDash spaced r = some '-' then
      some (← first.toClass?, '-' :: r)
    else do
      let (last, rest) ← readClassAtom spaced (skip spaced r)
      let a ← first.toLiteral?
      let b ← last.toLiteral?
      if a.char ≤ b.char then some (.range a b, rest) else none
  | s => some (← first.toClass?, s)

def joinClass (left : Option (ClassOp × Class)) (c : Class) : Class :=
  match left with
  | none => c
  | some (op, l) => .joined op l c

def readDashes (spaced : Bool) (c : Class) : Nat → List Char → Class × List Char
  | 0, s => (c, s)
  | fuel + 1, s =>
    match s with
    | '-' :: r => readDashes spaced (c.add (.atom (.literal ⟨'-', false⟩))) fuel (skip spaced r)
    | s => (c, s)

def readClassHead (spaced : Bool) (s : List Char) : Bool × Class × List Char :=
  let (negated, s) := match skip spaced s with
    | '^' :: s => (true, skip spaced s)
    | s => (false, s)
  match readDashes spaced .nothing (s.length + 1) s with
  | (.nothing, ']' :: r) => (negated, .atom (.literal ⟨']', false⟩), skip spaced r)
  | (c, s) => (negated, c, s)

mutual

/-- A class after its opening bracket: whether it is negated, what it holds, the rest. Fewer
classes may stand inside of it than `nest`. -/
def readClass (spaced : Bool) (nest : Nat) :
    Nat → List Char → Option ((Bool × Class) × List Char)
  | 0, _ => none
  | fuel + 1, s => do
    let (negated, start, s) := readClassHead spaced s
    let (c, rest) ← readMembers spaced nest fuel none start s
    some ((negated, c), rest)

def readMembers (spaced : Bool) (nest : Nat) :
    Nat → Option (ClassOp × Class) → Class → List Char →
    Option (Class × List Char)
  | 0, _, _, _ => none
  | fuel + 1, left, c, s =>
    match skip spaced s with
    | [] => none
    | ']' :: rest => some (joinClass left c, rest)
    | '[' :: s =>
      match readNamedClass s, nest with
      | some (named, rest), _ => readMembers spaced nest fuel left (c.add named) rest
      | none, 0 => none
      | none, nest + 1 => do
        let ((negated, inner), rest) ← readClass spaced nest fuel s
        readMembers spaced (nest + 1) fuel left (c.add (.bracketed negated inner)) rest
    | '&' :: '&' :: s =>
      readMembers spaced nest fuel (some (.inter, joinClass left c)) .nothing s
    | '-' :: '-' :: s =>
      readMembers spaced nest fuel (some (.diff, joinClass left c)) .nothing s
    | '~' :: '~' :: s =>
      readMembers spaced nest fuel (some (.symmDiff, joinClass left c)) .nothing s
    | s => do
      let (item, rest) ← readClassRange spaced s
      readMembers spaced nest fuel left (c.add item) rest

end

def readDigits (spaced : Bool) : Nat → List Char → List Char × List Char
  | 0, s => ([], s)
  | fuel + 1, s =>
    match s with
    | [] => ([], [])
    | c :: r =>
      if c.isDigit then
        let (ds, rest) := readDigits spaced fuel (skip spaced r)
        (c :: ds, rest)
      else ([], c :: r)

/-- The number of a repetition, with blanks around it; the outer none stands for one that is too
large, the inner one for no digits. -/
def readCount (spaced : Bool) (s : List Char) : Option (Option Nat × List Char) :=
  let s := s.dropWhile isBlank
  let (ds, rest) := readDigits spaced (s.length + 1) s
  let rest := skip spaced (rest.dropWhile isBlank)
  if ds = [] then some (none, rest)
  else if natOfDigits ds ≤ maxNat32 then some (some (natOfDigits ds), rest)
  else none

structure Bounds where
  least : Nat
  most : Option Nat
  greedy : Bool := true

def readGreed (b : Bounds) : List Char → Bounds × List Char
  | '?' :: s => ({ b with greedy := false }, s)
  | s => (b, s)

def readBounds (spaced : Bool) (s : List Char) : Option (Bounds × List Char) := do
  let (least, s) ← match skip spaced s with
    | [] => none
    | s => readCount spaced s
  let (bounds, s) ← match s with
    | [] => none
    | ',' :: s =>
      match skip spaced s with
      | [] => none
      | '}' :: s => least.map fun n => (({ least := n, most := none } : Bounds), '}' :: s)
      | s => do
        let least ← least
        let (most, s) ← readCount spaced s
        some ({ least, most := some (← most) }, s)
    | s => least.map fun n => ({ least := n, most := some n }, s)
  match s with
  | '}' :: rest =>
    if bounds.most.all fun most => bounds.least ≤ most then
      match skip spaced rest with
      | '?' :: rest => some (readGreed bounds ('?' :: rest))
      | rest => some (bounds, rest)
    else none
  | _ => none

def flagOf? : Char → Option Flag
  | 'i' => some .ignoreCase
  | 'm' => some .multiLine
  | 's' => some .dotAll
  | 'U' => some .swapGreed
  | 'u' => some .allScripts
  | 'R' => some .crlf
  | 'x' => some .spaced
  | _ => none

/-- Flags up to a colon or a closing parenthesis, and what is left from there on. Each letter
may stand once; a dash turns off what follows and may not come last. `seen` holds what came
before, last first. -/
def readSwitches (seen : List Char) : List Char → Option (Switches × List Char)
  | [] => none
  | c :: s =>
    if c = ':' ∨ c = ')' then
      if seen.head? = some '-' then none else some ([], c :: s)
    else if seen.elem c then none
    else if c = '-' then readSwitches (c :: seen) s
    else do
      let flag ← flagOf? c
      let (others, rest) ← readSwitches (c :: seen) s
      some ((flag, !seen.elem '-') :: others, rest)

def isNameChar (first : Bool) (c : Char) : Bool :=
  c = '_' || isAlphabetic c || (!first && (c = '.' || c = '[' || c = ']' || isNumeric c))

def readGroupName (names : List (List Char)) (s : List Char) : Option (List Char × List Char) :=
  let name := s.takeWhile (· ≠ '>')
  match s.dropWhile (· ≠ '>'), name with
  | '>' :: rest, c :: cs =>
    if isNameChar true c ∧ cs.all (isNameChar false) ∧ name ∉ names then some (name, rest)
    else none
  | _, _ => none

inductive Opening where
  | switches (s : Switches)
  | group (number : Option Nat) (name : Option (List Char)) (switches : Switches)

def Scope.after (scope : Scope) (s : Switches) : Scope :=
  { scope with
    spaced := ((s.find? fun flag => flag.1 = .spaced).map Prod.snd).getD scope.spaced }

def Scope.inside (scope : Scope) (number : Option Nat) (name : Option (List Char))
    (s : Switches) : Scope :=
  { scope.after s with
    groups := scope.groups + (if number.isSome then 1 else 0)
    names := name.toList ++ scope.names }

def readOpening (scope : Scope) (s : List Char) : Option (Opening × List Char) :=
  let number := some (scope.groups + 1)
  let named (s : List Char) : Option (Opening × List Char) :=
    (readGroupName scope.names s).map fun (name, rest) => (.group number (some name) [], rest)
  match skip scope.spaced s with
  | '?' :: 'P' :: '<' :: s => named s
  | '?' :: '<' :: s => if s.head? = some '=' ∨ s.head? = some '!' then none else named s
  | '?' :: s =>
    match readSwitches [] s with
    | some (switches, ')' :: rest) => if s.head? = some ')' then none
        else some (.switches switches, rest)
    | some (switches, ':' :: rest) => some (.group none none switches, rest)
    | _ => none
  | s => some (.group number none [], s)

def phraseOf : List Phrase → Phrase
  | [] => .empty
  | last :: parts => parts.foldl (fun rest part => .seq part rest) last

def repeatLast (b : Bounds) : List Phrase → Option (List Phrase)
  | [] | .switches _ :: _ => none
  | part :: parts => some (.times b.least b.most b.greedy part :: parts)

def readAtom (spaced : Bool) : List Char → Option (Atom × List Char)
  | [] => none
  | '\\' :: s => readEscape spaced s
  | '.' :: s => some (.dot, s)
  | '^' :: s => some (.anchor .lineStart, s)
  | '$' :: s => some (.anchor .lineEnd, s)
  | c :: s => some (.literal ⟨c, false⟩, s)

mutual

def readAlternatives (nest : Nat) :
    Nat → Scope → List Char → Option (Phrase × Scope × List Char)
  | 0, _, _ => none
  | fuel + 1, scope, s => do
    let (first, scope, rest) ← readParts nest fuel scope [] s
    match rest with
    | '|' :: rest =>
      let (others, scope, rest) ← readAlternatives nest fuel scope rest
      some (.alt first others, scope, rest)
    | rest => some (first, scope, rest)

/-- Parts one after the other; those read already stand last first. -/
def readParts (nest : Nat) : Nat → Scope → List Phrase → List Char →
    Option (Phrase × Scope × List Char)
  | 0, _, _, _ => none
  | fuel + 1, scope, parts, s =>
    let again (read : Bounds × List Char) :=
      (repeatLast read.1 parts).bind fun parts => readParts nest fuel scope parts read.2
    match skip scope.spaced s with
    | [] => some (phraseOf parts, scope, [])
    | ')' :: s => some (phraseOf parts, scope, ')' :: s)
    | '|' :: s => some (phraseOf parts, scope, '|' :: s)
    | '(' :: s => do
      let (opening, s) ← readOpening scope s
      match opening, nest with
      | .switches switches, _ =>
        readParts nest fuel (scope.after switches) (.switches switches :: parts) s
      | .group _ _ _, 0 => none
      | .group number name switches, nest + 1 =>
        let (inner, within, rest) ← readAlternatives nest fuel
          (scope.inside number name switches) s
        match rest with
        | ')' :: rest =>
          readParts (nest + 1) fuel { within with spaced := scope.spaced }
            (.group number switches inner :: parts) rest
        | _ => none
    | '[' :: s => do
      let ((negated, c), rest) ← readClass scope.spaced mostDepth (2 * s.length + 2) s
      readParts nest fuel scope (.bracketed negated c :: parts) rest
    | '?' :: s => again (readGreed { least := 0, most := some 1 } s)
    | '*' :: s => again (readGreed { least := 0, most := none } s)
    | '+' :: s => again (readGreed { least := 1, most := none } s)
    | '{' :: s => (readBounds scope.spaced s).bind again
    | s => do
      let (a, rest) ← readAtom scope.spaced s
      readParts nest fuel scope (.atom a :: parts) rest

end

def Phrase.ofText? (text : String) : Option Phrase :=
  let s := text.toList
  match readAlternatives mostDepth (3 * s.length + 3) {} s with
  | some (p, _, []) => if p.depths.all ≤ mostDepth then some p else none
  | _ => none

end LayerAtlas.Pattern
