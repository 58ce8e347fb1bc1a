import LayerAtlas.Build

namespace LayerAtlas

structure Generation where
  number : Nat
  layers : List Layer
  ascending : Ascending (layers.map Layer.name)

namespace Generation

def empty : Generation := { number := 0, layers := [], ascending := by simp [Ascending] }

def find? (g : Generation) (name : String) : Option Layer :=
  g.layers.find? fun l => l.name = name

def names (g : Generation) : List String := g.layers.map Layer.name

end Generation

inductive Outcome where
  | carried (l : Layer)
  | built (l : Layer)
  | failed (e : BuildError)

namespace Outcome

def layer? : Outcome → Option Layer
  | carried l | built l => some l
  | failed _ => none

/-- The layer of the previous generation that stands for a source, if it may be used again. Of
several fresh layers of one file the last counts. -/
def reusable? (previous : Generation) (now : Instant) (source : Source) : Option Layer :=
  (previous.layers.reverse.find? fun l => l.isFresh now && l.productFile = source.path).filter
    fun l => l.modified.isSome && l.modified = source.modified

def ofSource (previous : Generation) (build : Source → Except BuildError Layer) (now : Instant)
    (source : Source) : Outcome :=
  match reusable? previous now source with
  | some l => carried l
  | none => match build source with
    | .ok l => built l
    | .error e => failed e

end Outcome

structure Selection where
  layers : List Layer := []
  ascending : Ascending (layers.map Layer.name) := by simp [Ascending]
  reused : Nat := 0
  skipped : Nat := 0

namespace Selection

def insertLayer (l : Layer) : List Layer → List Layer
  | [] => [l]
  | m :: r =>
    if l.name < m.name then l :: m :: r
    else if m.name < l.name then m :: insertLayer l r
    else m :: r

theorem map_name_insertLayer (l : Layer) (ls : List Layer) :
    (insertLayer l ls).map Layer.name = Ascending.insert l.name (ls.map Layer.name) := by
  induction ls with
  | nil => rfl
  | cons m r ih =>
    simp only [insertLayer, Ascending.insert, List.map_cons]
    split
    · rfl
    · split
      · simp [ih]
      · rfl

/-- Takes the layer of an outcome, unless there is none or its name is taken. -/
def add (s : Selection) (outcome : Outcome) : Selection :=
  match outcome.layer? with
  | none => { s with skipped := s.skipped + 1 }
  | some l =>
    if s.layers.any fun m => m.name = l.name then { s with skipped := s.skipped + 1 }
    else {
      layers := insertLayer l s.layers
      ascending := by rw [map_name_insertLayer]; exact Ascending.insert_ascending s.ascending
      reused := match outcome with
        | .carried _ => s.reused + 1
        | _ => s.reused
      skipped := s.skipped }

def ofOutcomes (outcomes : List Outcome) : Selection := outcomes.foldl add {}

end Selection

structure RefreshSummary where
  generation : Nat
  layers : Nat
  reused : Nat
  skipped : Nat
  deriving DecidableEq, Repr

structure Catalog where
  current : Generation := .empty
  next : Nat := 1

namespace Catalog

def publish (c : Catalog) (outcomes : List Outcome) : RefreshSummary × Catalog :=
  let s := Selection.ofOutcomes outcomes
  ({ generation := c.next, layers := s.layers.length
     reused := s.reused, skipped := s.skipped },
    { current := { number := c.next, layers := s.layers, ascending := s.ascending }
      next := c.next + 1 })

/-- Publishes what a scan at `now` leads to; a failed scan changes nothing. -/
def refresh (c : Catalog) (scanned : Except ScanError Scan)
    (build : Source → Except BuildError Layer) (now : Instant) :
    Except ScanError RefreshSummary × Catalog :=
  match scanned with
  | .error e => (.error e, c)
  | .ok found =>
    let (summary, c) := c.publish (found.sources.map (Outcome.ofSource c.current build now))
    (.ok summary, c)

end Catalog

end LayerAtlas
