import LayerAtlas.Json.Document
import LayerAtlas.Yaml.Cursor

namespace LayerAtlas.Yaml

inductive Style where
  | plain
  | singleQuoted
  | doubleQuoted
  | literal
  | folded
  deriving DecidableEq, Repr

structure Gap where
  blanks : List Char
  breaks : List Char

namespace Gap

/-- What a gap stands for: a single line feed is a blank, and the first one of several breaks is
left out. -/
def text (g : Gap) : List Char :=
  match g.breaks with
  | [] => g.blanks
  | ['\n'] => [' ']
  | '\n' :: more => more
  | breaks => breaks

/--
Breaks and the blanks after each of them. A tab in front of column `indent` is refused.
-/
def readBreaks (indent : Int) : Nat → Cursor → Option (List Char × Cursor)
  | 0, c => some ([], c)
  | fuel + 1, c =>
    if c.breakHere = [] then some ([], c)
    else
      let (blanks, next) := c.skipBreak.span isBlank
      if ((blanks.takeWhile (· = ' ')).length : Int) < indent ∧ '\t' ∈ blanks then none
      else (readBreaks indent fuel next).map fun (more, rest) => (c.breakHere ++ more, rest)

def read (indent : Int) (c : Cursor) : Option (Gap × Cursor) :=
  let (blanks, next) := c.span isBlank
  (readBreaks indent next.rest.length next).map fun (breaks, rest) => ({ blanks, breaks }, rest)

end Gap

def endsPlain (inFlow : Bool) (c : Cursor) : Bool :=
  match c.head? with
  | none => true
  | some x => isBlank x || isBreak x || (x = ':' && c.gapAt 1)
    || (inFlow && (x = ',' || x = '[' || x = ']' || x = '\x7b' || x = '\x7d'))

/-- Inside brackets a colon may not be followed directly by one of some marks. -/
def badColon (inFlow : Bool) (c : Cursor) : Bool :=
  inFlow && c.head? = some ':' && c.sees 1 fun x => [',', '?', '[', ']', '\x7b', '\x7d'].elem x

def readPlainRun (inFlow : Bool) : Nat → Cursor → Option (List Char × Cursor)
  | 0, c => some ([], c)
  | fuel + 1, c =>
    match c.head? with
    | none => some ([], c)
    | some x =>
      if isBlank x || isBreak x then some ([], c)
      else if badColon inFlow c then none
      else if endsPlain inFlow c then some ([], c)
      else (readPlainRun inFlow fuel (c.skip 1)).map fun (xs, rest) => (x :: xs, rest)

structure Found where
  text : List Char
  crossesLine : Bool := false

/-- The rest of a plain scalar behind a gap, in lines at least as deep as `indent`. A gap counts
only if more of the scalar follows. -/
def readPlain (inFlow : Bool) (indent : Int) : Nat → Gap → Cursor → Option (Found × Cursor)
  | 0, _, c => some ({ text := [] }, c)
  | fuel + 1, gap, c => do
    let (run, next) ← if c.atBoundary || c.head? = some '#' then some ([], c)
      else readPlainRun inFlow c.rest.length c
    if run = [] then some ({ text := [], crossesLine := gap.breaks ≠ [] }, c)
    else
      let (after, rest) ← Gap.read indent next
      let (more, rest) ← if !inFlow && (rest.column : Int) < indent
        then some ({ text := [], crossesLine := after.breaks ≠ [] }, rest)
        else readPlain inFlow indent fuel after rest
      some ({ more with text := gap.text ++ run ++ more.text }, rest)

def escaped (letter : Char) : Option Char :=
  [('0', '\x00'), ('a', '\x07'), ('b', '\x08'), ('t', '\t'), ('\t', '\t'), ('n', '\n'),
    ('v', '\x0b'), ('f', '\x0c'), ('r', '\r'), ('e', '\x1b'), (' ', ' '), ('"', '"'),
    ('/', '/'), ('\\', '\\'), ('N', '\u0085'), ('_', '\u00a0'), ('L', '\u2028'),
    ('P', '\u2029')].lookup letter

def escapeDigits (letter : Char) : Option Nat := [('x', 2), ('u', 4), ('U', 8)].lookup letter

def hexNumber (digits : List Char) : Option Nat :=
  (digits.mapM Json.hexValue).map fun ds => ds.foldl (fun n d => n * 16 + d) 0

def charOfCode (n : Nat) : Option Char := if n.isValidChar then some (Char.ofNat n) else none

def readEscape (c : Cursor) : Option (Char × Cursor) := do
  let letter ← c.head?
  match escapeDigits letter with
  | none => (escaped letter).map fun x => (x, c.skip 1)
  | some count =>
    let digits := (c.rest.drop 1).take count
    if digits.length ≠ count then none
    else ((hexNumber digits).bind charOfCode).map fun x => (x, c.skip (count + 1))

/-- A quoted scalar after its opening quote, up to behind the closing one. In single quotes a
quote is written twice; in double quotes a backslash escapes a character, or the end of a
line. -/
def readQuoted (double : Bool) : Nat → Cursor → Option (List Char × Cursor)
  | 0, _ => none
  | fuel + 1, c =>
    if c.atBoundary then none
    else match c.head? with
      | none => none
      | some x =>
        let go (text : List Char) (next : Cursor) : Option (List Char × Cursor) :=
          (readQuoted double fuel next).map fun (more, rest) => (text ++ more, rest)
        if isBlank x || isBreak x then
          (Gap.read 0 c).bind fun (gap, next) => go gap.text next
        else if !double && x = '\'' then
          if c.sees 1 (· = '\'') then go ['\''] (c.skip 2) else some ([], c.skip 1)
        else if double && x = '"' then some ([], c.skip 1)
        else if double && x = '\\' then
          if c.sees 1 isBreak then
            (Gap.read 0 (c.skip 1).skipBreak).bind fun (gap, next) => go gap.breaks next
          else (readEscape (c.skip 1)).bind fun (y, next) => go [y] next
        else go [x] (c.skip 1)

inductive Chomping where
  | strip
  | clip
  | keep
  deriving DecidableEq, Repr

structure BlockHead where
  chomping : Chomping := .clip
  /-- How much deeper than their surroundings its lines are; found from the lines if it is not
  given. -/
  increment : Option Nat := none

namespace BlockHead

def readChomping (c : Cursor) : Option (Chomping × Cursor) :=
  match c.head? with
  | some '+' => some (.keep, c.skip 1)
  | some '-' => some (.strip, c.skip 1)
  | _ => none

def readIncrement (c : Cursor) : Option (Option Nat × Cursor) :=
  match c.head? with
  | some '0' => none
  | some x => some (if x.isDigit then (some (x.toNat - 48), c.skip 1) else (none, c))
  | none => some (none, c)

def read (c : Cursor) : Option (BlockHead × Cursor) := do
  let (head, c) ← match readChomping c with
    | some (chomping, c) => (readIncrement c).map fun (increment, c) =>
      (({ chomping, increment } : BlockHead), c)
    | none => (readIncrement c).map fun (increment, c) =>
      match increment.bind fun _ => readChomping c with
      | some (chomping, c) => (({ chomping, increment } : BlockHead), c)
      | none => ({ increment }, c)
  let c ← c.finishLine
  some (head, c)

end BlockHead

structure BlockGap where
  breaks : List Char
  depth : Nat

/-- Lines that hold nothing but blanks up to the column `indent`, or any blanks if it is not
known yet. A tab may not stand in for such a blank. -/
def readBlockGap (indent : Option Nat) : Nat → Cursor → Option (BlockGap × Cursor)
  | 0, c => some (⟨[], c.column⟩, c)
  | fuel + 1, c =>
    let spaces := (c.rest.takeWhile (· = ' ')).length
    let next := c.skip (match indent with
      | some deep => min spaces (deep - c.column)
      | none => spaces)
    if next.head? = some '\t' ∧ indent.all (next.column < ·) then none
    else if next.breakHere = [] then some (⟨[], next.column⟩, next)
    else (readBlockGap indent fuel next.skipBreak).map fun (gap, rest) =>
      (⟨next.breakHere ++ gap.breaks, max next.column gap.depth⟩, rest)

/-- What stands between two texts of a folded scalar: the break behind the first one is
folded. -/
def foldBlock (ending breaks : List Char) : List Char :=
  if ending = ['\n'] then (if breaks = [] then [' '] else breaks) else ending ++ breaks

/-- The lines of a block scalar whose texts start at the column `indent`. `ending` is the break
behind the text read last and `breaks` are the empty lines since; a text that starts with a
blank is never folded. -/
def readBlockLines (style : Style) (indent : Nat) (chomping : Chomping) :
    Nat → List Char → List Char → Bool → Cursor → Option (List Char × Cursor)
  | 0, _, _, _, c => some ([], c)
  | fuel + 1, ending, breaks, afterBlank, c =>
    if c.column = indent && c.head?.isSome then do
      let blank := c.sees 0 isBlank
      let before := if style = .folded && !afterBlank && !blank then foldBlock ending breaks
        else ending ++ breaks
      let (text, next) := c.span fun x => !isBreak x
      let (gap, rest) ← readBlockGap (some indent) next.rest.length next.skipBreak
      let (more, rest) ← readBlockLines style indent chomping fuel next.breakHere
        gap.breaks blank rest
      some (before ++ text ++ more, rest)
    else some (match chomping with
      | .strip => []
      | .clip => ending
      | .keep => ending ++ breaks, c)

def readBlock (style : Style) (parent : Int) (c : Cursor) : Option (List Char × Cursor) := do
  let (head, c) ← BlockHead.read c
  let given := head.increment.map fun n => (max parent 0).toNat + n
  let (gap, c) ← readBlockGap given (c.rest.length + 1) c
  let indent := given.getD (max gap.depth (max (parent + 1) 1).toNat)
  readBlockLines style indent head.chomping (c.rest.length + 1) [] gap.breaks false c

end LayerAtlas.Yaml
