
namespace LayerAtlas

def maxTimeValues : Nat := 10000

inductive TimeError where
  | invalidFormat (text : String)
  | malformedDuration (text : String)
  | invalidInterval (text : String)
  | tooManyValues (limit : Nat)
  deriving DecidableEq, Repr

def TimeError.message : TimeError → String
  | invalidFormat text => "Invalid time format: " ++ text
  | malformedDuration text => "Malformed duration: '" ++ text ++ "'"
  | invalidInterval text => "Invalid interval '" ++ text ++ "': end time is before start time"
  | tooManyValues limit =>
    "Time expression expands to more than " ++ toString limit ++ " values"

end LayerAtlas
