import LayerAtlas.Json.Value
import LayerAtlas.Text.Shortest

namespace LayerAtlas.Json

open Text

def escape (c : Char) : List Char :=
  if c = '"' then ['\\', '"']
  else if c = '\\' then ['\\', '\\']
  else if c = '\n' then ['\\', 'n']
  else if c = '\r' then ['\\', 'r']
  else if c = '\t' then ['\\', 't']
  else if c.toNat = 8 then ['\\', 'b']
  else if c.toNat = 12 then ['\\', 'f']
  else if c.toNat < 32 then
    ['\\', 'u', '0', '0', Nat.digitChar (c.toNat / 16), Nat.digitChar (c.toNat % 16)]
  else [c]

def quote (s : String) : String := String.ofList ('"' :: s.toList.flatMap escape ++ ['"'])

def newLine (level : Nat) : String := String.ofList ('\n' :: List.replicate (2 * level) ' ')

def bracket (opening closing : String) (level : Nat) (parts : List String) : String :=
  if parts = [] then opening ++ closing
  else
    opening ++ String.intercalate "," (parts.map fun part => newLine (level + 1) ++ part) ++
      newLine level ++ closing

def showDouble (x : Float) : String := (showFloat? x).getD "null"

def showBool (b : Bool) : String := if b then "true" else "false"

mutual

def Value.print (level : Nat) : Value → String
  | .null => "null"
  | .bool b => showBool b
  | .whole n => showInt n
  | .double x => showDouble x
  | .text s => quote s
  | .array items => bracket "[" "]" level (printItems (level + 1) items)
  | .object members => bracket "\x7b" "\x7d" level (printMembers (level + 1) members)

def printItems (level : Nat) : List Value → List String
  | [] => []
  | item :: items => item.print level :: printItems level items

def printMembers (level : Nat) : List (String × Value) → List String
  | [] => []
  | (key, value) :: members =>
    (quote key ++ ": " ++ value.print level) :: printMembers level members

end

mutual

def Value.printLine : Value → String
  | .null => "null"
  | .bool b => showBool b
  | .whole n => showInt n
  | .double x => showDouble x
  | .text s => quote s
  | .array items => "[" ++ ",".intercalate (printLineItems items) ++ "]"
  | .object members => "\x7b" ++ ",".intercalate (printLineMembers members) ++ "\x7d"

def printLineItems : List Value → List String
  | [] => []
  | item :: items => item.printLine :: printLineItems items

def printLineMembers : List (String × Value) → List String
  | [] => []
  | (key, value) :: members => (quote key ++ ":" ++ value.printLine) :: printLineMembers members

end

end LayerAtlas.Json
