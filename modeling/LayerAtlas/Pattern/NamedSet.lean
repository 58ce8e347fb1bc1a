import LayerAtlas.Unicode.Age
import LayerAtlas.Unicode.Script
import LayerAtlas.Unicode.Segmentation

namespace LayerAtlas.Pattern

open Unicode Unicode.CharSet

def asciiClass? (name : String) : Option CharSet :=
  (List.lookup name [
    ("alnum", [(48, 57), (65, 90), (97, 122)]),
    ("alpha", [(65, 90), (97, 122)]),
    ("ascii", [(0, 127)]),
    ("blank", [(9, 9), (32, 32)]),
    ("cntrl", [(0, 31), (127, 127)]),
    ("digit", [(48, 57)]),
    ("graph", [(33, 126)]),
    ("lower", [(97, 122)]),
    ("print", [(32, 126)]),
    ("punct", [(33, 47), (58, 64), (91, 96), (123, 126)]),
    ("space", [(9, 13), (32, 32)]),
    ("upper", [(65, 90)]),
    ("word", [(48, 57), (65, 90), (95, 95), (97, 122)]),
    ("xdigit", [(48, 57), (65, 70), (97, 102)])]).map ofRanges

def categoryGroups : List (List String × List String) :=
  [ (["lu", "uppercaseletter"], ["Lu"]),
    (["ll", "lowercaseletter"], ["Ll"]),
    (["lt", "titlecaseletter"], ["Lt"]),
    (["lc", "casedletter"], ["Lu", "Ll", "Lt"]),
    (["lm", "modifierletter"], ["Lm"]),
    (["lo", "otherletter"], ["Lo"]),
    (["l", "letter"], ["Lu", "Ll", "Lt", "Lm", "Lo"]),
    (["mn", "nonspacingmark"], ["Mn"]),
    (["mc", "spacingmark"], ["Mc"]),
    (["me", "enclosingmark"], ["Me"]),
    (["m", "mark", "combiningmark"], ["Mn", "Mc", "Me"]),
    (["nd", "decimalnumber", "digit"], ["Nd"]),
    (["nl", "letternumber"], ["Nl"]),
    (["no", "othernumber"], ["No"]),
    (["n", "number"], ["Nd", "Nl", "No"]),
    (["pc", "connectorpunctuation"], ["Pc"]),
    (["pd", "dashpunctuation"], ["Pd"]),
    (["ps", "openpunctuation"], ["Ps"]),
    (["pe", "closepunctuation"], ["Pe"]),
    (["pi", "initialpunctuation"], ["Pi"]),
    (["pf", "finalpunctuation"], ["Pf"]),
    (["po", "otherpunctuation"], ["Po"]),
    (["p", "punctuation", "punct"], ["Pc", "Pd", "Ps", "Pe", "Pi", "Pf", "Po"]),
    (["sm", "mathsymbol"], ["Sm"]),
    (["sc", "currencysymbol"], ["Sc"]),
    (["sk", "modifiersymbol"], ["Sk"]),
    (["so", "othersymbol"], ["So"]),
    (["s", "symbol"], ["Sm", "Sc", "Sk", "So"]),
    (["zs", "spaceseparator"], ["Zs"]),
    (["zl", "lineseparator"], ["Zl"]),
    (["zp", "paragraphseparator"], ["Zp"]),
    (["z", "separator"], ["Zs", "Zl", "Zp"]),
    (["cc", "control", "cntrl"], ["Cc"]),
    (["cf", "format"], ["Cf"]),
    (["co", "privateuse"], ["Co"]),
    (["cn", "unassigned"], ["Cn"]),
    (["c", "other"], ["Cc", "Cf", "Cs", "Co", "Cn"]) ]

def category? (name : String) : Option CharSet :=
  if name = "any" then some all
  else if name = "assigned" then some (ofCategories ["Cn"]).negate
  else if name = "ascii" then some ascii
  else (categoryGroups.find? fun group => group.1.elem name).map fun group =>
    ofCategories group.2

def plainName (name : List Char) : String :=
  let (hasIs, rest) := match name with
    | a :: b :: r => if a.toLower = 'i' ∧ b.toLower = 's' then (true, r) else (false, name)
    | _ => (false, name)
  let plain :=
    (rest.filter fun c => c ≠ ' ' && c ≠ '_' && c ≠ '-' && c.toNat < 128).map Char.toLower
  if hasIs ∧ plain = ['c'] then "isc" else String.ofList plain

/-- The set that a name stands for: a property, a category or a script, in this order. -/
def namedSet? (name : List Char) : Option CharSet :=
  let name := plainName name
  let property := if name = "cf" ∨ name = "sc" ∨ name = "lc" then none else property? name
  property.or ((category? name).or ((Script.find? name).map Script.characters))

def valuedSet? (property value : List Char) : Option CharSet :=
  let value := plainName value
  match plainName property with
  | "generalcategory" | "gc" => category? value
  | "script" | "sc" => (Script.find? value).map Script.characters
  | "scriptextensions" | "scx" => (Script.find? value).map Script.extension
  | "age" => age? value
  | "graphemeclusterbreak" | "gcb" => graphemeBreak? value
  | "wordbreak" | "wb" => wordBreak? value
  | "sentencebreak" | "sb" => sentenceBreak? value
  | _ => none

end LayerAtlas.Pattern
