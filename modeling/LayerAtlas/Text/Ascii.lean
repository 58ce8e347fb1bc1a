
namespace LayerAtlas.Text

def upper (s : String) : String := s.map Char.toUpper

def lower (s : String) : String := s.map Char.toLower

def sameLetters (s t : String) : Bool := lower s = lower t

end LayerAtlas.Text
