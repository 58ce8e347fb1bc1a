
namespace LayerAtlas

inductive Grant where
  | everything
  | below (start : String)
  | layer (name : String)
  deriving DecidableEq, Repr

namespace Grant

/-- Reads `*`, a namespace followed by `:*`, or the name of a layer. -/
def read (pattern : String) : Grant :=
  match pattern.toList.reverse with
  | ['*'] => everything
  | '*' :: ':' :: rest => below (String.ofList (':' :: rest).reverse)
  | _ => layer pattern

def allows (layer : String) : Grant → Bool
  | everything => true
  | below start => start.toList.isPrefixOf layer.toList
  | .layer name => name = layer

end Grant

/-- The grants of each key; nothing is asked of a key where there are no grants at all. -/
structure Access where
  grants : Option (List (String × Grant)) := none

namespace Access

def ofPatterns (pairs : List (String × String)) : Access where
  grants := some (pairs.map fun (key, pattern) => (key, Grant.read pattern))

/-- Whether a key may see all of some layers; a key without grants may not even see none. -/
def authorizes (a : Access) (key : String) (layers : List String) : Bool :=
  a.grants.all fun grants =>
    let own := grants.filter fun g => g.1 = key
    own ≠ [] && layers.all fun layer => own.any fun g => g.2.allows layer

end Access

end LayerAtlas
