import LayerAtlas.Text.Blank
import LayerAtlas.Unicode.Letter

namespace LayerAtlas.Environment

open Text

abbrev Variables := String → Option String

inductive Quoting where
  | plain
  | blank
  | escaped
  | single
  | singleEscaped
  | double
  | doubleEscaped
  deriving DecidableEq, Repr

def Quoting.next (q : Quoting) (c : Char) : Quoting :=
  let opening : Quoting :=
    if c = '\\' then escaped else if c = '"' then double else if c = '\'' then single else plain
  match q with
  | plain => if isBlank c ∧ c ≠ '\n' ∧ c ≠ '\r' then blank else opening
  | blank => opening
  | escaped => plain
  | single => if c = '\\' then singleEscaped else if c = '\'' then plain else single
  | singleEscaped => single
  | double => if c = '\\' then doubleEscaped else if c = '"' then plain else double
  | doubleEscaped => double

def Quoting.afterLine (q : Quoting) : List Char → Except (List Char) Quoting
  | [] => .ok q
  | c :: rest =>
    if q = blank ∧ c = '#' then .error []
    else match (q.next c).afterLine rest with
      | .ok q => .ok q
      | .error before => .error (c :: before)

def linesOf : List Char → List (List Char)
  | [] => []
  | c :: rest =>
    if c = '\n' then [c] :: linesOf rest
    else match linesOf rest with
      | [] => [[c]]
      | line :: lines => (c :: line) :: lines

def chomp (line : List Char) : List Char :=
  match line.reverse with
  | '\n' :: '\r' :: rest => rest.reverse
  | '\n' :: rest => rest.reverse
  | _ => line

/-- Lines joined where quotes are open, without comments; nothing stands for a quote left
open. -/
def joinLines (q : Quoting) (before : List Char) : List (List Char) → List (Option (List Char))
  | [] => if q = .plain then [] else [none]
  | line :: rest =>
    let all := before ++ line
    if (trimStart all).head? = some '#' then some [] :: joinLines .plain [] rest
    else match q.afterLine line with
      | .error kept => some (before ++ kept) :: joinLines .plain [] rest
      | .ok .plain => some (chomp all) :: joinLines .plain [] rest
      | .ok q => joinLines q all rest

inductive Mode where
  | plain
  | single
  | double
  | escaped (quoted : Bool)
  | name (quoted : Bool) (name : List Char)
  | braced (quoted : Bool) (name : List Char)
  | ending
  deriving DecidableEq, Repr

def Mode.ofQuoted (quoted : Bool) : Mode := if quoted then double else plain

def readValue (lookUp : List Char → List Char) : Mode → List Char → Option (List Char)
  | .plain, [] | .ending, [] | .escaped false, [] => some []
  | .name false name, [] => some (lookUp name)
  | _, [] => none
  | .ending, c :: rest =>
    if c = ' ' ∨ c = '\t' then readValue lookUp .ending rest
    else if c = '#' then some []
    else none
  | .escaped quoted, c :: rest =>
    if c ∈ ['\\', '\'', '"', '$', ' '] then
      (readValue lookUp (.ofQuoted quoted) rest).map (c :: ·)
    else if c = 'n' then (readValue lookUp (.ofQuoted quoted) rest).map ('\n' :: ·)
    else none
  | .single, c :: rest =>
    if c = '\'' then readValue lookUp .plain rest
    else (readValue lookUp .single rest).map (c :: ·)
  | .name quoted name, c :: rest =>
    if Unicode.isAlphanumeric c then readValue lookUp (.name quoted (name ++ [c])) rest
    else if c.toNat = 0x7b ∧ name = [] then readValue lookUp (.braced quoted []) rest
    else if c = '$' then (readValue lookUp (.name quoted []) rest).map (lookUp name ++ ·)
    else (readValue lookUp (.ofQuoted quoted) rest).map fun r => lookUp name ++ c :: r
  | .braced quoted name, c :: rest =>
    if c.toNat = 0x7d then (readValue lookUp (.ofQuoted quoted) rest).map (lookUp name ++ ·)
    else readValue lookUp (.braced quoted (name ++ [c])) rest
  | .double, c :: rest =>
    if c = '$' then readValue lookUp (.name true []) rest
    else if c = '"' then readValue lookUp .plain rest
    else if c = '\\' then readValue lookUp (.escaped true) rest
    else (readValue lookUp .double rest).map (c :: ·)
  | .plain, c :: rest =>
    if c = '$' then readValue lookUp (.name false []) rest
    else if c = '\'' then readValue lookUp .single rest
    else if c = '"' then readValue lookUp .double rest
    else if c = '\\' then readValue lookUp (.escaped false) rest
    else if c = ' ' ∨ c = '\t' then readValue lookUp .ending rest
    else (readValue lookUp .plain rest).map (c :: ·)

def readName (s : List Char) : Option (List Char × List Char) :=
  match s with
  | c :: _ =>
    if c.isAlpha ∨ c = '_' then
      some (s.span fun c => c.isAlphanum || c = '_' || c = '.')
    else none
  | [] => none

def readEquals (s : List Char) : Option (List Char) :=
  match trimStart s with
  | '=' :: rest => some (trimStart rest)
  | _ => none

def readSetting (line : List Char) : Option (List Char × List Char) := do
  let (name, rest) ← readName line
  if name = "export".toList then
    match readEquals rest with
    | some value => some (name, value)
    | none => do
      let (name, rest) ← readName (trimStart rest)
      return (name, ← readEquals rest)
  else return (name, ← readEquals rest)

def setLines (env : Variables) (seen : List (String × String)) :
    List (Option (List Char)) → Variables
  | [] | none :: _ => env
  | some line :: lines =>
    let line := trimChars line
    if line.head? = none ∨ line.head? = some '#' then setLines env seen lines
    else
      let lookUp (name : List Char) : List Char :=
        (((env (String.ofList name)).or (seen.lookup (String.ofList name))).getD "").toList
      match (do
        let (name, text) ← readSetting line
        let value ← if text.head? = some '#' then some [] else readValue lookUp .plain text
        return (String.ofList name, String.ofList value)) with
      | none => env
      | some (name, value) =>
        let env : Variables :=
          if (env name).isSome then env
          else fun other => if other = name then some value else env other
        setLines env ((name, value) :: seen) lines

def words (text : String) : List String :=
  let words := text.toList.splitOnP fun c => !(Unicode.isAlphanumeric c || c = '_' || c = '.')
  (words.filter (· ≠ [])).map String.ofList

def addFile (env : Variables) (text : String) : Variables :=
  let s := match text.toList with
    | c :: rest => if c.toNat = 0xfeff then rest else c :: rest
    | [] => []
  setLines env [] (joinLines .plain [] (linesOf s))

end LayerAtlas.Environment
