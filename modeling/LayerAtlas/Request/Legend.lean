import LayerAtlas.Request.Map

namespace LayerAtlas

open Request Text

structure LegendRequest where
  layer : Layer
  style : String
  format : String
  width : Option Nat
  height : Option Nat

namespace LegendRequest

def defaultFormat : String := "image/png"

def validate (s : Settings) (g : Generation) (p : Parameters LegendParameter) :
    Except RequestError LegendRequest := do
  match p .version with
  | some version => ensureVersion s version
  | none => .ok ()
  let name ← required "LAYER" (p .layer)
  let some layer := g.find? name | .error (.layerNotFound name)
  let style := trim ((p .style).getD "")
  ensure (layer.acceptsStyle style) (.styleNotFound name style)
  let format := (p .format).getD defaultFormat
  ensureFormat s format
  let width ← readOptional (readSize "WIDTH") (p .width)
  let height ← readOptional (readSize "HEIGHT") (p .height)
  return { layer, style := styleOrDefault style, format, width, height }

end LegendRequest

end LayerAtlas
