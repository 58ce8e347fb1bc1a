import LayerAtlas.Files.Entry
import LayerAtlas.Text.Blank

namespace LayerAtlas

structure Source where
  customer : String
  /-- The customer and the directories below its products, separated by colons. -/
  nameSpace : String
  stem : String
  path : String
  modified : Option Int
  text : Option String := none
  deriving DecidableEq, Repr

def Source.defaultName (s : Source) : String := s.nameSpace ++ ":" ++ s.stem

inductive ScanError where
  | rootMissing (path : String)
  | io (path cause : String)
  deriving DecidableEq, Repr

def ScanError.message : ScanError → String
  | rootMissing path => "Configuration root " ++ path ++ " is not a directory"
  | io path cause => "Failed to scan " ++ path ++ ": " ++ cause

/-- What a scan finds: definition files, and the paths that cannot be followed. -/
structure Scan where
  sources : List Source
  broken : List String
  deriving DecidableEq, Repr

namespace Scan

def isHidden (name : String) : Bool := name.toList.head? = some '.'

/-- A name without the suffix of definitions, which has to leave something. -/
def stem? (suffix name : String) : Option String :=
  let n := name.toList
  let s := suffix.toList
  if s.length < n.length ∧ s.reverse.isPrefixOf n.reverse then
    some (String.ofList (n.take (n.length - s.length)))
  else none

/-- The stem of a name that looks like that of a definition: neither hidden nor a backup
copy. -/
def definitionStem? (suffix name : String) : Option String :=
  if isHidden name ∨ name.toList.getLast? = some '~' then none else stem? suffix name

structure Leaf where
  place : List String
  file : Option FileState
  deriving DecidableEq, Repr

mutual

/-- What is found at a place and below it, the names in a directory being taken in their
order. -/
def leaves (place : List String) : Entry → List Leaf
  | .file f => [{ place, file := some f }]
  | .broken | .closed _ => [{ place, file := none }]
  | .directory entries =>
    ((branches place entries).mergeSort fun a b => a.1 ≤ b.1).flatMap Prod.snd

/-- What is found below each name in a directory. A broken link counts even where it is
hidden. -/
def branches (place : List String) : List (String × Entry) → List (String × List Leaf)
  | [] => []
  | (name, entry) :: rest =>
    let found := if isHidden name ∧ ¬ entry.isBroken then [] else leaves (place ++ [name]) entry
    (name, found) :: branches place rest

end

def ofCustomer (customer : String) (entry : Entry) : List Leaf :=
  if isHidden customer then []
  else match entry.child? "products" with
    | some products => if products.isDirectory then leaves [customer] products else []
    | none => []

def ofCustomers (customers : List (String × Entry)) : List Leaf :=
  (customers.mergeSort fun a b => a.1 ≤ b.1).flatMap fun (customer, entry) =>
    ofCustomer customer entry

def pathOf (customers : String) : List String → String
  | [] => customers
  | customer :: rest => rest.foldl joinPath (joinPath (joinPath customers customer) "products")

def source? (customers suffix : String) (leaf : Leaf) : Option Source := do
  let customer ← leaf.place.head?
  let name ← leaf.place.getLast?
  let file ← leaf.file
  let stem ← definitionStem? suffix name
  return {
    customer
    nameSpace := String.intercalate ":" leaf.place.dropLast
    stem
    path := pathOf customers leaf.place
    modified := some file.modified
    text := file.text }

end Scan

def scan (root suffix : String) (tree : Entry) : Except ScanError Scan :=
  let path := joinPath root "customers"
  match tree.child? "customers" with
  | some (.directory customers) =>
    let leaves := Scan.ofCustomers customers
    .ok {
      sources := leaves.filterMap (Scan.source? path suffix)
      broken := (leaves.filter fun leaf => leaf.file = none).map fun leaf =>
        Scan.pathOf path leaf.place }
  | some (.closed cause) => .error (.io path cause)
  | _ => .error (.rootMissing path)

end LayerAtlas
