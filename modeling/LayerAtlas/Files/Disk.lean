import LayerAtlas.Files.Entry

namespace LayerAtlas

/-- A place to read files from, by their paths; links are followed. -/
structure Disk (m : Type → Type) where
  real : String → m (Option String)
  names : String → m (Option (Except String (List String)))
  file : String → m (Option FileState)

namespace Disk

variable {m : Type → Type} [Monad m]

def maxDepth : Nat := 2048

/--
What a directory holds. `inside` are the real paths of the directories that the walk is in, and
`here` is the last of them; a name is a link if its real path is not `here` and the name.
-/
def walk (disk : Disk m) : Nat → List String → String → String → List String → m Entry
  | 0, _, _, _, _ => pure .broken
  | depth + 1, inside, here, path, names => do
    let found ← names.mapM fun name => do
      let child := joinPath path name
      match ← disk.real child with
      | none => return [(name, Entry.broken)]
      | some real =>
        match ← disk.names child with
        | some (.ok names) =>
          if real ≠ joinPath here name ∧ real ∈ inside then return [(name, Entry.broken)]
          else return [(name, ← disk.walk depth (real :: inside) real child names)]
        | some (.error cause) => return [(name, Entry.closed cause)]
        | none => match ← disk.file child with
          | some f => return [(name, Entry.file f)]
          | none => return []
    return .directory found.flatten

def products (disk : Disk m) (customer : String) : m (List (String × Entry)) := do
  let path := joinPath customer "products"
  match ← disk.real path, ← disk.names path with
  | some real, some (.ok names) =>
    return [("products", ← disk.walk maxDepth [real] real path names)]
  | _, some (.error cause) => return [("products", .closed cause)]
  | _, _ => return []

def customers (disk : Disk m) (root : String) : m Entry := do
  let path := joinPath root "customers"
  match ← disk.names path with
  | none => return .directory []
  | some (.error cause) => return .directory [("customers", .closed cause)]
  | some (.ok names) =>
    let found ← names.mapM fun name => do
      let customer := joinPath path name
      match ← disk.names customer with
      | none => return []
      | some _ => return [(name, Entry.directory (← disk.products customer))]
    return .directory [("customers", .directory found.flatten)]

end Disk

end LayerAtlas
