import LayerAtlas.Yaml.Token

namespace LayerAtlas.Yaml

structure Candidate where
  slot : Nat
  index : Nat
  line : Nat
  column : Nat
  required : Bool

/-- A key stays within its line and within 1024 characters. -/
def Candidate.isStale (k : Candidate) (c : Cursor) : Bool :=
  k.line < c.line || k.index + 1024 < c.index

/-- A token, or a place for those that start a key. -/
inductive Piece where
  | token (t : Token)
  | slot (number : Nat)

structure Tokens where
  found : List Piece := []
  /-- The slots that start a key, and whether its block starts with it. -/
  keys : List (Nat × Bool) := []
  slots : Nat := 0
  indent : Int := -1
  outer : List Int := []
  keyAllowed : Bool := true
  candidate : Option Candidate := none
  outerCandidates : List (Option Candidate) := []

namespace Tokens

def inFlow (s : Tokens) : Bool := s.outerCandidates ≠ []

def add (s : Tokens) (t : Token) : Tokens := { s with found := .token t :: s.found }

def allowKey (s : Tokens) (allowed : Bool) : Tokens := { s with keyAllowed := allowed }

/-- Gives up a key that might have started, unless it had to. -/
def dropKey (s : Tokens) : Option Tokens :=
  if s.candidate.any Candidate.required then none else some { s with candidate := none }

def dropStaleKeys (c : Cursor) (s : Tokens) : Option Tokens :=
  if (s.candidate :: s.outerCandidates).any fun k => k.any fun k =>
    k.isStale c && k.required then none
  else
    let fresh (k : Option Candidate) : Option Candidate := k.filter fun k => !k.isStale c
    some { s with
      candidate := fresh s.candidate
      outerCandidates := s.outerCandidates.map fresh }

def noteKey (c : Cursor) (s : Tokens) : Option Tokens :=
  if s.keyAllowed then do
    let s ← s.dropKey
    some { s with
      found := .slot s.slots :: s.found
      slots := s.slots + 1
      candidate := some {
        slot := s.slots, index := c.index, line := c.line, column := c.column
        required := !s.inFlow && s.indent = c.column } }
  else some s

def startsBlock (s : Tokens) (column : Nat) : Bool := !s.inFlow && s.indent < (column : Int)

def enterBlock (s : Tokens) (column : Nat) : Tokens :=
  if s.startsBlock column then { s with indent := column, outer := s.indent :: s.outer } else s

def openBlock (s : Tokens) (column : Nat) (t : Token) : Tokens :=
  if s.startsBlock column then (s.enterBlock column).add t else s

def leaveBlocks (column : Int) : Int → List Int → Nat × Int × List Int
  | indent, [] => (0, indent, [])
  | indent, above :: outer =>
    if column < indent then
      let (count, rest) := leaveBlocks column above outer
      (count + 1, rest)
    else (0, indent, above :: outer)

def closeBlocks (s : Tokens) (column : Int) : Tokens :=
  if s.inFlow then s
  else
    let (count, indent, outer) := leaveBlocks column s.indent s.outer
    { s with indent, outer, found := List.replicate count (Piece.token .blockEnd) ++ s.found }

def closeAll (s : Tokens) : Option Tokens := ((s.closeBlocks (-1)).allowKey false).dropKey

def openBrackets (c : Cursor) (s : Tokens) (t : Token) : Option Tokens := do
  let s ← s.noteKey c
  let inside : Tokens := { s with
    candidate := none
    outerCandidates := s.candidate :: s.outerCandidates }
  some ((inside.allowKey true).add t)

def closeBrackets (s : Tokens) (t : Token) : Option Tokens := do
  let s ← s.dropKey
  let s := match s.outerCandidates with
    | [] => s
    | k :: ks => { s with candidate := k, outerCandidates := ks }
  some ((s.allowKey false).add t)

def addEntry (c : Cursor) (s : Tokens) : Option Tokens :=
  if !s.inFlow && !s.keyAllowed then none
  else do
    let s ← (s.openBlock c.column .sequenceStart).dropKey
    some ((s.allowKey true).add .entry)

def addKey (c : Cursor) (s : Tokens) : Option Tokens :=
  if !s.inFlow && !s.keyAllowed then none
  else do
    let s ← (s.openBlock c.column .mappingStart).dropKey
    some ((s.allowKey (!s.inFlow)).add .key)

def addValue (c : Cursor) (s : Tokens) : Option Tokens :=
  match s.candidate with
  | some k =>
    let opens := s.startsBlock k.column
    let keyed : Tokens := { s.enterBlock k.column with
      keys := (k.slot, opens) :: s.keys
      candidate := none }
    some ((keyed.allowKey false).add .value)
  | none =>
    if !s.inFlow && !s.keyAllowed then none
    else some (((s.openBlock c.column .mappingStart).allowKey (!s.inFlow)).add .value)

def addNode (c : Cursor) (s : Tokens) (t : Token) (next : Cursor) :
    Option (Tokens × Cursor) := do
  let s ← s.noteKey c
  some ((s.allowKey false).add t, next)

def startsPlain (s : Tokens) (c : Cursor) : Bool :=
  match c.head? with
  | none => false
  | some x =>
    (!isBlank x && !isBreak x && !"-?:,[]\x7b\x7d#&*!|>'\"%@\u0060".toList.elem x)
      || (x = '-' && !c.sees 1 isBlank)
      || (!s.inFlow && (x = '?' || x = ':') && !c.gapAt 1)

def readScalar (s : Tokens) (style : Style) (c : Cursor) : Option (Token × Cursor) :=
  (match style with
    | .singleQuoted => readQuoted false (c.rest.length + 1) c
    | .doubleQuoted => readQuoted true (c.rest.length + 1) c
    | style => readBlock style s.indent c).map fun (text, next) =>
      (.scalar style (String.ofList text), next)

def addQuoted (c : Cursor) (s : Tokens) (style : Style) : Option (Tokens × Cursor) := do
  let (t, next) ← s.readScalar style (c.skip 1)
  s.addNode c t next

def addBlockScalar (c : Cursor) (s : Tokens) (style : Style) : Option (Tokens × Cursor) := do
  let s ← s.dropKey
  let (t, next) ← s.readScalar style (c.skip 1)
  some ((s.allowKey true).add t, next)

def addPlain (c : Cursor) (s : Tokens) : Option (Tokens × Cursor) := do
  let (found, next) ← readPlain s.inFlow (s.indent + 1) (c.rest.length + 1) ⟨[], []⟩ c
  let s ← s.noteKey c
  some ((s.allowKey found.crossesLine).add (.scalar .plain (String.ofList found.text)), next)

def step (c : Cursor) (s : Tokens) : Option (Tokens × Cursor) :=
  let mark (s : Option Tokens) : Option (Tokens × Cursor) := s.map (·, c.skip 1)
  let block := !s.inFlow
  if c.column = 0 && c.head? = some '%' then do
    let s ← s.closeAll
    let (t, next) ← Token.readDirective (c.skip 1)
    some (s.add t, next)
  else if c.atMark '-' then s.closeAll.map fun s => (s.add .documentStart, c.skip 3)
  else if c.atMark '.' then s.closeAll.map fun s => (s.add .documentEnd, c.skip 3)
  else match c.head? with
    | none => none
    | some '[' => mark (s.openBrackets c .openList)
    | some '\x7b' => mark (s.openBrackets c .openMap)
    | some ']' => mark (s.closeBrackets .closeList)
    | some '\x7d' => mark (s.closeBrackets .closeMap)
    | some ',' => mark (s.dropKey.map fun s => (s.allowKey true).add .separator)
    | some '*' => do
      let (name, next) ← Token.readName (c.skip 1)
      s.addNode c (.alias name) next
    | some '&' => do
      let (name, next) ← Token.readName (c.skip 1)
      s.addNode c (.anchor name) next
    | some '!' => do
      let (name, next) ← Token.readTag s.inFlow c
      s.addNode c (.tag name) next
    | some '\'' => s.addQuoted c .singleQuoted
    | some '"' => s.addQuoted c .doubleQuoted
    | some x =>
      if x = '-' && c.gapAt 1 then mark (s.addEntry c)
      else if x = '?' && (!block || c.gapAt 1) then mark (s.addKey c)
      else if x = ':' && (!block || c.gapAt 1) then mark (s.addValue c)
      else if x = '|' && block then s.addBlockScalar c .literal
      else if x = '>' && block then s.addBlockScalar c .folded
      else if s.startsPlain c then s.addPlain c
      else none

/-- Past blanks, comments and empty lines. Tabs count as blanks only where no key may start. -/
def skipToToken : Nat → Cursor → Tokens → Cursor × Tokens
  | 0, c, s => (c, s)
  | fuel + 1, c, s =>
    let c := if c.index = 0 ∧ c.head? = some '\ufeff' then c.skip 1 else c
    let c := c.skipWhile fun x => x = ' ' || (x = '\t' && (s.inFlow || !s.keyAllowed))
    let c := if c.head? = some '#' then c.skipLine else c
    if c.breakHere = [] then (c, s)
    else skipToToken fuel c.skipBreak (if s.inFlow then s else s.allowKey true)

def run : Nat → Cursor → Tokens → Option Tokens
  | 0, _, _ => none
  | fuel + 1, c, s => do
    let (c, s) := skipToToken (c.rest.length + 1) c s
    let s ← s.dropStaleKeys c
    let s := s.closeBlocks c.column
    if c.rest = [] then s.closeAll
    else
      let (s, next) ← s.step c
      run fuel next s

def toList (s : Tokens) : List Token :=
  s.found.reverse.flatMap fun
    | .token t => [t]
    | .slot n => match s.keys.lookup n with
      | some true => [.mappingStart, .key]
      | some false => [.key]
      | none => []

def ofText? (text : String) : Option (List Token) :=
  if text.toList.all isAllowed then
    (run (text.length + 1) { rest := text.toList } {}).map toList
  else none

end Tokens

end LayerAtlas.Yaml
