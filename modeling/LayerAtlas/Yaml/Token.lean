import LayerAtlas.Yaml.Scalar

namespace LayerAtlas.Yaml

/-- A tag as it is written: a handle that a directive may explain, and the rest. -/
structure TagName where
  handle : String
  suffix : String
  deriving DecidableEq, Repr

inductive Token where
  | version (major minor : Nat)
  | tagHandle (handle : String) (start : String)
  | documentStart
  | documentEnd
  | sequenceStart
  | mappingStart
  | blockEnd
  | openList
  | closeList
  | openMap
  | closeMap
  | separator
  | entry
  | key
  | value
  | alias (name : String)
  | anchor (name : String)
  | tag (name : TagName)
  | scalar (style : Style) (text : String)
  deriving DecidableEq, Repr

namespace Token

def readName (c : Cursor) : Option (String × Cursor) :=
  let (name, next) := c.span isWord
  let ends := next.gapAt 0 || next.sees 0 fun x =>
    ['?', ':', ',', ']', '\x7d', '%', '@', '\u0060'].elem x
  if name = [] ∨ !ends then none else some (String.ofList name, next)

/-- Characters of a tag; those of lists count only between angle brackets and in directives. -/
def isTagChar (bracketed : Bool) (c : Char) : Bool :=
  isWord c || ";/?:@&=+$.%!~*'()".toList.elem c || (bracketed && ",[]".toList.elem c)

def readOctet (c : Cursor) : Option (UInt8 × Cursor) :=
  match c.rest with
  | '%' :: a :: b :: _ => (hexNumber [a, b]).map fun n => (UInt8.ofNat n, c.skip 3)
  | _ => none

def octetCount (first : UInt8) : Option Nat :=
  if first < 0x80 then some 1
  else if first &&& 0xE0 = 0xC0 then some 2
  else if first &&& 0xF0 = 0xE0 then some 3
  else if first &&& 0xF8 = 0xF0 then some 4
  else none

def readMoreOctets : Nat → Cursor → Option (List UInt8 × Cursor)
  | 0, c => some ([], c)
  | count + 1, c => do
    let (x, c) ← readOctet c
    if x &&& 0xC0 ≠ 0x80 then none
    let (xs, c) ← readMoreOctets count c
    some (x :: xs, c)

def readTagChar (x : Char) (c : Cursor) : Option (List UInt8 × Cursor) :=
  if x = '%' then do
    let (first, c) ← readOctet c
    let count ← octetCount first
    let (more, c) ← readMoreOctets (count - 1) c
    some (first :: more, c)
  else some (x.toString.toUTF8.toList, c.skip 1)

def readTagChars (bracketed : Bool) : Nat → Cursor → Option (List UInt8 × Cursor)
  | 0, c => some ([], c)
  | fuel + 1, c =>
    match c.head?.filter (isTagChar bracketed) with
    | none => some ([], c)
    | some x => do
      let (bytes, c) ← readTagChar x c
      let (more, c) ← readTagChars bracketed fuel c
      some (bytes ++ more, c)

/-- The rest of a tag, which may be empty only behind `head`. Bytes that are no text stand for
no tag. -/
def readSuffix (bracketed : Bool) (head : String) (c : Cursor) : Option (String × Cursor) := do
  let (bytes, next) ← readTagChars bracketed c.rest.length c
  if bytes = [] ∧ head = "" then none
  let bytes := (head.toList.drop 1).flatMap (fun x => x.toString.toUTF8.toList) ++ bytes
  some ((String.fromUTF8? ⟨bytes.toArray⟩).getD "", next)

def readHandle (c : Cursor) : Option (String × Cursor) :=
  if c.head? ≠ some '!' then none
  else
    let (name, next) := (c.skip 1).span isWord
    if next.head? = some '!' then some (String.ofList ('!' :: name ++ ['!']), next.skip 1)
    else some (String.ofList ('!' :: name), next)

def readTagName (c : Cursor) : Option (TagName × Cursor) :=
  if c.sees 1 (· = '<') then do
    let (suffix, next) ← readSuffix true "" (c.skip 2)
    if next.head? ≠ some '>' then none
    some (⟨"", suffix⟩, next.skip 1)
  else do
    let (handle, next) ← readHandle c
    if 1 < handle.length ∧ handle.toList.getLast? = some '!' then
      let (suffix, next) ← readSuffix false "" next
      some (⟨handle, suffix⟩, next)
    else
      let (suffix, next) ← readSuffix false handle next
      some (if suffix = "" then ⟨"", "!"⟩ else ⟨"!", suffix⟩, next)

def readTag (inFlow : Bool) (c : Cursor) : Option (TagName × Cursor) := do
  let (name, next) ← readTagName c
  if (inFlow && next.head? = some ',') || next.gapAt 0 then some (name, next) else none

def readVersionNumber (c : Cursor) : Option (Nat × Cursor) :=
  let (digits, next) := c.span Char.isDigit
  if digits = [] ∨ 9 < digits.length then none else some (Text.natOfDigits digits, next)

def readDirective (c : Cursor) : Option (Token × Cursor) := do
  let (name, c) := c.span isWord
  if !c.gapAt 0 then none
  let c := c.skipWhile isBlank
  if name = ['Y', 'A', 'M', 'L'] then
    let (major, c) ← readVersionNumber c
    if c.head? ≠ some '.' then none
    let (minor, c) ← readVersionNumber (c.skip 1)
    let c ← c.finishLine
    some (version major minor, c)
  else if name = ['T', 'A', 'G'] then
    let (handle, c) ← readHandle c
    if handle ≠ "!" ∧ handle.toList.getLast? ≠ some '!' then none
    if !c.sees 0 isBlank then none
    let (start, c) ← readSuffix true "" (c.skipWhile isBlank)
    if !c.gapAt 0 then none
    let c ← c.finishLine
    some (tagHandle handle start, c)
  else none

end Token

end LayerAtlas.Yaml
