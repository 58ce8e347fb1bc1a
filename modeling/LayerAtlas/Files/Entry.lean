
namespace LayerAtlas

structure FileState where
  modified : Int
  text : Option String
  deriving DecidableEq, Repr

inductive Entry where
  | file (f : FileState)
  | directory (entries : List (String × Entry))
  /-- A link that leads nowhere, or back to a directory that it lies in. -/
  | broken
  | closed (cause : String)

namespace Entry

def entries? : Entry → Option (List (String × Entry))
  | directory entries => some entries
  | _ => none

def isBroken : Entry → Bool
  | broken => true
  | _ => false

def isDirectory : Entry → Bool
  | directory _ | closed _ => true
  | _ => false

def child? (name : String) (e : Entry) : Option Entry :=
  e.entries?.bind fun entries => entries.lookup name

def directory? (name : String) (e : Entry) : Option (List (String × Entry)) :=
  (e.child? name).bind entries?

end Entry

namespace Path

def isAbsolute (path : String) : Bool := path.toList.head? = some '/'

def steps (path : String) : List String := (path.toList.splitOn '/').map String.ofList

def stays (step : String) : Bool := step = "" || step = "."

def parts (path : String) : List String := (steps path).filter fun step => !stays step

/-- What two paths share that are taken for the same: their parts, and where they start. -/
def components (path : String) : Bool × List String :=
  (isAbsolute path, (if (steps path).head? = some "." then ["."] else []) ++ parts path)

end Path

/-- The path of a name in a directory; a path from the top is the same from everywhere. -/
def joinPath (directory name : String) : String :=
  if Path.isAbsolute name then name
  else if directory = "" ∨ directory.toList.getLast? = some '/' then directory ++ name
  else directory ++ "/" ++ name

end LayerAtlas
