import LayerAtlas.Files.Disk

namespace LayerAtlas

inductive Tree where
  | file (f : FileState)
  | link (target : String)
  | directory (entries : List (String × Tree))

namespace Tree

open LayerAtlas.Path

def empty : Tree := directory []

def at? (tree : Tree) : List String → Option Tree
  | [] => some tree
  | name :: rest => match tree with
    | directory entries => (entries.lookup name).bind fun child => child.at? rest
    | _ => none

def isDirectory (tree : Tree) (real : List String) : Bool :=
  match tree.at? real with
  | some (directory _) => true
  | _ => false

/-- The real path that the steps of a path lead to, if there is something at its end and at most
`links` links are on the way. Steps that stay or go up start at a directory, and no way leads
out at the top. -/
def resolve (tree : Tree) (links : Nat) (here : List String) :
    List String → Option (List String)
  | [] => some here
  | name :: rest =>
    if stays name then (if tree.isDirectory here then tree.resolve links here rest else none)
    else if name = ".." then
      (if here ≠ [] ∧ tree.isDirectory here then tree.resolve links here.dropLast rest
        else none)
    else match tree.at? (here ++ [name]) with
    | none => none
    | some (link target) =>
      match links with
      | 0 => none
      | links + 1 =>
        if isAbsolute target then none else tree.resolve links here (steps target ++ rest)
    | some _ => tree.resolve links (here ++ [name]) rest
  termination_by rest => (links, rest.length)

def maxLinks : Nat := 40

def real? (tree : Tree) (path : String) : Option (List String) :=
  if isAbsolute path then none else tree.resolve maxLinks [] (steps path)

def find? (tree : Tree) (path : String) : Option Tree := (tree.real? path).bind tree.at?

def setEntry (name : String) (child : Tree) : List (String × Tree) → List (String × Tree)
  | [] => [(name, child)]
  | entry :: rest =>
    if entry.1 = name then (name, child) :: rest else entry :: setEntry name child rest

def put (tree : Tree) (child : Tree) : List String → Tree
  | [] => child
  | name :: rest => match tree with
    | directory entries =>
      let old := (entries.lookup name).getD empty
      directory (setEntry name (old.put child rest) entries)
    | other => other

def erase (tree : Tree) : List String → Tree
  | [] => tree
  | name :: rest => match tree with
    | directory entries =>
      match entries.lookup name with
      | none => tree
      | some child =>
        if rest = [] then directory (entries.filter fun entry => entry.1 ≠ name)
        else directory (setEntry name (child.erase rest) entries)
    | other => other

def enter (tree : Tree) (here : List String) : List String → Option (Tree × List String)
  | [] => some (tree, here)
  | part :: rest =>
    match tree.resolve maxLinks here [part] with
    | some real => tree.enter real rest
    | none =>
      if (tree.at? (here ++ [part])).isSome ∨ part = ".." then none
      else (tree.put empty (here ++ [part])).enter (here ++ [part]) rest

def makeDirectory (tree : Tree) (path : String) : Tree :=
  ((tree.enter [] (parts path)).map Prod.fst).getD tree

def placeAt (tree : Tree) (path : String) (child : Tree) : Tree :=
  match (parts path).getLast? with
  | none => tree
  | some name =>
    match tree.enter [] (parts path).dropLast with
    | none => tree
    | some (tree, here) => tree.put child (here ++ [name])

def makeLink (tree : Tree) (path target : String) : Tree := tree.placeAt path (link target)

def writeTarget (tree : Tree) : Nat → List String → String → Option (List String)
  | 0, _, _ => none
  | links + 1, here, name =>
    match tree.at? (here ++ [name]) with
    | some (link target) =>
      if isAbsolute target then none
      else match (parts target).getLast? with
        | none => none
        | some last =>
          match tree.resolve maxLinks here (parts target).dropLast with
          | none => none
          | some there => tree.writeTarget links there last
    | some (directory _) => none
    | _ => some (here ++ [name])

def write (tree : Tree) (path : String) (f : FileState) : Tree :=
  match (parts path).getLast? with
  | none => tree
  | some name =>
    match tree.enter [] (parts path).dropLast with
    | none => tree
    | some (tree, here) => match tree.writeTarget maxLinks here name with
      | none => tree
      | some place => tree.put (file f) place

def remove (tree : Tree) (path : String) : Tree :=
  match (parts path).getLast? with
  | none => tree
  | some name =>
    match tree.resolve maxLinks [] (parts path).dropLast with
    | none => tree
    | some here => tree.erase (here ++ [name])

def disk (tree : Tree) : Disk Id where
  real path := (tree.real? path).map fun parts => String.intercalate "/" parts
  names path := match tree.find? path with
    | some (directory entries) => some (.ok (entries.map Prod.fst))
    | _ => none
  file path := match tree.find? path with
    | some (file f) => some f
    | _ => none

end Tree

end LayerAtlas
