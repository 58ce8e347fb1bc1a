import LayerAtlas.RequestError
import LayerAtlas.Text.Ascii
import LayerAtlas.Text.Blank
import LayerAtlas.Text.Numeral

namespace LayerAtlas.Request

open Text

/-- The elements of a list separated by commas, without the blanks around them; an empty text
has none. -/
def splitList (text : String) : List String :=
  if text = "" then []
  else (text.toList.splitOn ',').map fun s => String.ofList (trimChars s)

/-- Each layer with its style. Without styles every layer has the empty one. -/
def pairLayers (layers styles : Option String) : Except RequestError (List (String × String)) :=
  let layers := splitList (layers.getD "")
  if layers = [] ∨ "" ∈ layers then .error .missingLayers
  else
    let styles := match splitList (styles.getD "") with
      | [] => List.replicate layers.length ""
      | styles => styles
    if styles.length = layers.length then .ok (layers.zip styles)
    else .error (.layerStyleMismatch layers.length styles.length)

def readTransparent : Option String → Except RequestError Bool
  | none => .ok false
  | some v =>
    if sameLetters v "TRUE" then .ok true
    else if sameLetters v "FALSE" then .ok false
    else .error (.invalidParameter "TRANSPARENT" ("expected TRUE or FALSE, got '" ++ v ++ "'"))

def readSize (name text : String) : Except RequestError Nat :=
  match (boundedNat maxNat32 (trim text)).filter (0 < ·) with
  | some n => .ok n
  | none => .error (.invalidParameter name ("'" ++ text ++ "' is not a positive integer"))

end LayerAtlas.Request
