import LayerAtlas.Reading
import LayerAtlas.Text.Decimal
import LayerAtlas.Yaml.Node

namespace LayerAtlas.Yaml

open Text

structure Place where
  anchored : List (Nat × Node)
  node : Node

namespace Place

def ofDocument (node : Node) : Place := ⟨node.anchored, node⟩

def ofText? (text : String) : Option Place := (Node.ofText? text).map ofDocument

/-- The node that an alias stands for: the last one with its number. -/
def target (p : Place) : Node :=
  match p.node with
  | .alias number => (p.anchored.reverse.lookup number).getD .void
  | node => node

def other (p : Place) (node : Node) : Place := { p with node }

def asText (p : Place) : Option String :=
  match p.target with
  | .scalar _ _ text => some text
  | _ => none

def kindTag (kind : String) : String := "tag:yaml.org,2002:" ++ kind

def valueText (kind : String) (p : Place) : Option String :=
  match p.target with
  | .scalar properties style text =>
    if style = .plain ∨ (style = .literal ∧ properties.tag = some (kindTag kind)) then some text
    else none
  | _ => none

def boolOfText (text : String) : Option Bool :=
  if text ∈ ["true", "True", "TRUE"] then some true
  else if text ∈ ["false", "False", "FALSE"] then some false
  else none

def isNullWord (text : String) : Bool := ["null", "Null", "NULL", "~"].elem text

def natOfBase (base : Nat) (digits : List Char) : Option Nat :=
  if digits = [] then none
  else (digits.mapM fun c => (Json.hexValue c).filter (· < base)).map fun ds =>
    ds.foldl (fun n d => n * base + d) 0

/-- A number without a sign: with the mark of another base, or without leading zeros. -/
def natOfText (text : List Char) : Option Nat :=
  match text with
  | '0' :: 'x' :: digits => natOfBase 16 digits
  | '0' :: 'o' :: digits => natOfBase 8 digits
  | '0' :: 'b' :: digits => natOfBase 2 digits
  | ['0'] => some 0
  | '0' :: _ => none
  | digits => natOfBase 10 digits

def intOfText (signed : Bool) (text : String) : Option Int :=
  match text.toList with
  | '+' :: text => (natOfText text).map Int.ofNat
  | '-' :: text => if signed then (natOfText text).map fun n => -(n : Int) else none
  | text => (natOfText text).map Int.ofNat

def floatOfWord (text : String) : Option Float :=
  let unsigned := if text.startsWith "+" then text.drop 1 |>.toString else text
  if text.startsWith "++" ∨ text.startsWith "+-" then none
  else if unsigned ∈ [".inf", ".Inf", ".INF"] then some (1 / 0)
  else if text ∈ ["-.inf", "-.Inf", "-.INF"] then some (-1 / 0)
  else if text ∈ [".nan", ".NaN", ".NAN"] then some (0 / 0)
  else (floatOfText unsigned).filter Float.isFinite

def asInt (signed : Bool) (least most : Int) (p : Place) : Option Int :=
  ((valueText "int" p).bind (intOfText signed)).filter fun n => least ≤ n ∧ n ≤ most

/-- A choice is named by a tag of its own on nothing, or by a text. -/
def asChoice (p : Place) : Option String :=
  match p.target with
  | .scalar properties style text =>
    match properties.tag.filter fun tag => tag.startsWith "!" with
    | some tag =>
      if style = .plain ∧ (text = "" ∨ isNullWord text) then some (tag.drop 1).toString
      else none
    | none => some text
  | _ => none

def isNothing (p : Place) : Option Bool :=
  match p.target with
  | .void => some true
  | .scalar properties style text =>
    if style ≠ .plain then some false
    else if properties.tag = some (kindTag "null") then
      (if isNullWord text then some true else none)
    else some (properties.tag = none && (text = "" || isNullWord text))
  | _ => some false

def isEmpty (node : Node) : Bool :=
  match node with
  | .void => true
  | .scalar _ style text => style = .plain && text = ""
  | _ => false

def items (p : Place) : Option (List Place) :=
  match p.target with
  | .sequence _ items => some (items.map p.other)
  | node => if isEmpty node then some [] else none

def members (p : Place) : Option (List (String × Place)) :=
  match p.target with
  | .mapping _ entries => entries.mapM fun (key, value) =>
    (asText (p.other key)).map (·, p.other value)
  | node => if isEmpty node then some [] else none

end Place

instance : Document Place where
  asText := Place.asText
  asBool p := (Place.valueText "bool" p).bind Place.boolOfText
  asNat most p := (Place.asInt false 0 most p).map Int.toNat
  asInt := Place.asInt true
  asFloat p := (Place.valueText "float" p).bind Place.floatOfWord
  asChoice := Place.asChoice
  isNothing := Place.isNothing
  items := Place.items
  members := Place.members
  fields _ := none

end LayerAtlas.Yaml
