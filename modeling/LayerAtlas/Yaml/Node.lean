import LayerAtlas.Yaml.Tokens

namespace LayerAtlas.Yaml

structure Properties where
  anchor : Option Nat := none
  tag : Option String := none
  deriving DecidableEq, Repr

inductive Node where
  | void
  | alias (anchor : Nat)
  | scalar (p : Properties) (style : Style) (text : String)
  | sequence (p : Properties) (items : List Node)
  | mapping (p : Properties) (entries : List (Node × Node))

abbrev TagHandles := List (String × String)

/-- The tokens that are left, and the anchors so far with their numbers. -/
structure Remainder where
  tokens : List Token
  anchors : List (String × Nat) := []

namespace Remainder

def head? (s : Remainder) : Option Token := s.tokens.head?

def next (s : Remainder) : Remainder := { s with tokens := s.tokens.tail }

def expect (s : Remainder) (t : Token) : Option Remainder :=
  if s.head? = some t then some s.next else none

/-- The anchor of this name gets a number: how many names there have been before. -/
def addAnchor (s : Remainder) (name : String) : Remainder × Nat :=
  let number := s.anchors.length
  ({ s with anchors := (name, number) :: s.anchors.filter fun a => a.1 ≠ name }, number)

end Remainder

def TagName.resolve (handles : TagHandles) (name : TagName) : Option String :=
  if name.handle = "" then some name.suffix
  else (handles.lookup name.handle).map fun start => start ++ name.suffix

namespace Properties

def readAnchor (p : Properties) (s : Remainder) : Properties × Remainder :=
  match s.head? with
  | some (.anchor name) =>
    let (s, number) := s.next.addAnchor name
    ({ p with anchor := some number }, s)
  | _ => (p, s)

def readTag (handles : TagHandles) (p : Properties) (s : Remainder) :
    Option (Properties × Remainder) :=
  match s.head? with
  | some (.tag name) => (name.resolve handles).map fun tag =>
    ({ p with tag := some tag }, s.next)
  | _ => some (p, s)

def read (handles : TagHandles) (s : Remainder) : Option (Properties × Remainder) :=
  match s.head? with
  | some (.anchor _) =>
    let (p, s) := ({} : Properties).readAnchor s
    p.readTag handles s
  | _ => (({} : Properties).readTag handles s).map fun (p, s) => p.readAnchor s

end Properties

namespace Node

def empty : Node := .scalar {} .plain ""

def ofScalar (p : Properties) (style : Style) (text : String) : Node :=
  .scalar { p with tag := p.tag.filter (· ≠ "!") } style text

inductive Context where
  /-- In a block, where a sequence may also be no deeper than its key. -/
  | blockValue
  | block
  | brackets
  deriving DecidableEq, Repr

/-- Tokens that end a block mapping's key or value, in front of which it may be left out. -/
def endsBlockPart (t : Option Token) : Bool := t ∈ [some .key, some .value, some .blockEnd]

mutual

def read (handles : TagHandles) : Nat → Context → Remainder → Option (Node × Remainder)
  | 0, _, _ => none
  | fuel + 1, context, s =>
    match s.head? with
    | some (.alias name) => (s.anchors.lookup name).map fun number => (.alias number, s.next)
    | _ => do
      let (p, s) ← Properties.read handles s
      match s.head? with
      | some (.scalar style text) => some (ofScalar p style text, s.next)
      | some .openList =>
        let (items, s) ← readFlowItems handles fuel true s.next
        some (.sequence p items, s)
      | some .openMap =>
        let (entries, s) ← readFlowEntries handles fuel true s.next
        some (.mapping p entries, s)
      | some .entry =>
        if context = .blockValue then
          let (items, s) ← readEntries handles fuel false s
          some (.sequence p items, s)
        else if p = {} then none
        else some (.scalar p .plain "", s)
      | some .sequenceStart =>
        if context ≠ .brackets then
          let (items, s) ← readEntries handles fuel true s.next
          some (.sequence p items, s)
        else if p = {} then none
        else some (.scalar p .plain "", s)
      | some .mappingStart =>
        if context ≠ .brackets then
          let (entries, s) ← readBlockEntries handles fuel s.next
          some (.mapping p entries, s)
        else if p = {} then none
        else some (.scalar p .plain "", s)
      | _ => if p = {} then none else some (.scalar p .plain "", s)

/-- The entries of a block sequence; one that has no block of its own ends with the last
entry. -/
def readEntries (handles : TagHandles) : Nat → Bool → Remainder → Option (List Node × Remainder)
  | 0, _, _ => none
  | fuel + 1, ownBlock, s =>
    match s.head? with
    | some .entry => do
      let s := s.next
      let next := s.head?
      let (item, s) ← if next ∈ [some .entry, some .blockEnd] ∨
        (!ownBlock ∧ next ∈ [some .key, some .value])
        then some (empty, s)
        else read handles fuel .block s
      let (items, s) ← readEntries handles fuel ownBlock s
      some (item :: items, s)
    | _ => if ownBlock then (s.expect .blockEnd).map fun s => ([], s) else some ([], s)

def readBlockEntries (handles : TagHandles) :
    Nat → Remainder → Option (List (Node × Node) × Remainder)
  | 0, _ => none
  | fuel + 1, s =>
    match s.head? with
    | some .blockEnd => some ([], s.next)
    | some .key => do
      let s := s.next
      let (key, s) ← if endsBlockPart s.head? then some (empty, s)
        else read handles fuel .blockValue s
      let (value, s) ← readBlockValue handles fuel s
      let (entries, s) ← readBlockEntries handles fuel s
      some ((key, value) :: entries, s)
    | _ => none

def readBlockValue (handles : TagHandles) : Nat → Remainder → Option (Node × Remainder)
  | 0, _ => none
  | fuel + 1, s =>
    match s.head? with
    | some .value =>
      let s := s.next
      if endsBlockPart s.head? then some (empty, s) else read handles fuel .blockValue s
    | _ => some (empty, s)

/-- The items of a sequence in brackets; a key and its value are a mapping of their own. Where
the key is left out, the token behind it is passed over. -/
def readFlowItems (handles : TagHandles) :
    Nat → Bool → Remainder → Option (List Node × Remainder)
  | 0, _, _ => none
  | fuel + 1, first, s =>
    match s.head? with
    | some .closeList => some ([], s.next)
    | _ => do
      let s ← if first then some s else s.expect .separator
      match s.head? with
      | some .closeList => some ([], s.next)
      | some .key =>
        let s := s.next
        let (key, s) ←
          if s.head? ∈ [some .value, some .separator, some .closeList] then some (empty, s.next)
          else read handles fuel .brackets s
        let (value, s) ← readFlowValue handles fuel .closeList s
        let (items, s) ← readFlowItems handles fuel false s
        some (.mapping {} [(key, value)] :: items, s)
      | _ =>
        let (item, s) ← read handles fuel .brackets s
        let (items, s) ← readFlowItems handles fuel false s
        some (item :: items, s)

def readFlowEntries (handles : TagHandles) :
    Nat → Bool → Remainder → Option (List (Node × Node) × Remainder)
  | 0, _, _ => none
  | fuel + 1, first, s =>
    match s.head? with
    | some .closeMap => some ([], s.next)
    | _ => do
      let s ← if first then some s else s.expect .separator
      match s.head? with
      | some .closeMap => some ([], s.next)
      | some .key =>
        let (key, s) ← readFlowPart handles fuel
          [some .value, some .separator, some .closeMap] s.next
        let (value, s) ← readFlowValue handles fuel .closeMap s
        let (entries, s) ← readFlowEntries handles fuel false s
        some ((key, value) :: entries, s)
      | _ =>
        let (key, s) ← read handles fuel .brackets s
        let (entries, s) ← readFlowEntries handles fuel false s
        some ((key, empty) :: entries, s)

def readFlowPart (handles : TagHandles) :
    Nat → List (Option Token) → Remainder → Option (Node × Remainder)
  | 0, _, _ => none
  | fuel + 1, ends, s => if s.head? ∈ ends then some (empty, s)
      else read handles fuel .brackets s

def readFlowValue (handles : TagHandles) : Nat → Token → Remainder → Option (Node × Remainder)
  | 0, _, _ => none
  | fuel + 1, close, s =>
    match s.head? with
    | some .value => readFlowPart handles fuel [some .separator, some close] s.next
    | _ => some (empty, s)

end

/-- A node and the nodes inside it that have an anchor, with the numbers of the anchors, in
their order. -/
def anchored : Node → List (Nat × Node)
  | .void | .alias _ => []
  | .scalar p style text => (p.anchor.map (·, .scalar p style text)).toList
  | .sequence p items => (p.anchor.map (·, .sequence p items)).toList ++ anchoredItems items
  | .mapping p entries =>
    (p.anchor.map (·, .mapping p entries)).toList ++ anchoredEntries entries
where
  anchoredItems : List Node → List (Nat × Node)
    | [] => []
    | item :: items => item.anchored ++ anchoredItems items
  anchoredEntries : List (Node × Node) → List (Nat × Node)
    | [] => []
    | (key, value) :: entries => key.anchored ++ value.anchored ++ anchoredEntries entries

structure Directives where
  versioned : Bool := false
  handles : TagHandles := []

namespace Directives

def known : TagHandles := [("!", "!"), ("!!", "tag:yaml.org,2002:")]

def read : List Token → Directives → Option (Directives × List Token)
  | .version major minor :: ts, d =>
    if d.versioned ∨ major ≠ 1 ∨ minor ∉ [1, 2] then none
    else read ts { d with versioned := true }
  | .tagHandle handle start :: ts, d =>
    if (d.handles.lookup handle).isSome then none
    else read ts { d with handles := (handle, start) :: d.handles }
  | ts, d => some ({ d with handles := d.handles ++ known }, ts)

end Directives

def readContent (handles : TagHandles) (ts : List Token) : Option (Node × List Token) :=
  match ts with
  | [] => some (empty, [])
  | .documentEnd :: _ => some (empty, ts)
  | _ => (read handles (4 * ts.length + 4) .block { tokens := ts }).map fun (n, s) =>
    (n, s.tokens)

def ofTokens? (ts : List Token) : Option Node := do
  let (directives, rest) ← Directives.read ts {}
  let (node, rest) ← match rest with
    | .documentStart :: rest => readContent directives.handles rest
    | [] => if ts = [] then some (.void, []) else none
    | .documentEnd :: _ => none
    | rest => if rest.length < ts.length then none else readContent directives.handles rest
  if rest.all (· = .documentEnd) then some node else none

def ofText? (text : String) : Option Node := (Tokens.ofText? text).bind ofTokens?

end Node

end LayerAtlas.Yaml
