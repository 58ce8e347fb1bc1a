import LayerAtlas.Unicode.Property

namespace LayerAtlas.Unicode

def isAlphabetic (c : Char) : Bool := alphabetic.mem c.toNat

def isNumeric (c : Char) : Bool := numbers.mem c.toNat

def isAlphanumeric (c : Char) : Bool := isAlphabetic c || isNumeric c

end LayerAtlas.Unicode
