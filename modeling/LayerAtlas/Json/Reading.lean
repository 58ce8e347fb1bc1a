import LayerAtlas.Json.Value
import LayerAtlas.Reading

namespace LayerAtlas.Json

open Text

namespace Node

def isNull : Node → Bool
  | null => true
  | _ => false

def asText : Node → Option String
  | text s => s
  | _ => none

def asBool : Node → Option Bool
  | bool b => some b
  | _ => none

def asInt (least most : Int) : Node → Option Int
  | number n => n.toWhole?.filter fun m => least ≤ m ∧ m ≤ most
  | _ => none

def asFloat : Node → Option Float
  | number n => floatOfText n.text
  | _ => none

def asChoice : Node → Option String
  | object [(some key, null)] => some key
  | n => n.asText

def items : Node → Option (List Node)
  | array items => some items
  | _ => none

def members : Node → Option (List (String × Node))
  | object ms => ms.mapM fun (m : Option String × Node) => m.1.map (·, m.2)
  | _ => none

end Node

instance : Document Node where
  asText := Node.asText
  asBool := Node.asBool
  asNat most n := (n.asInt 0 most).map Int.toNat
  asInt := Node.asInt
  asFloat := Node.asFloat
  asChoice := Node.asChoice
  isNothing n := some n.isNull
  items := Node.items
  members := Node.members
  fields := Node.items

end LayerAtlas.Json
