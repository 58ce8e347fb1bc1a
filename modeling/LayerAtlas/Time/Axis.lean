import LayerAtlas.Time.Dimension

namespace LayerAtlas

inductive Generations where
  | single (d : TimeDimension)
  /-- Runs in increasing order of their reference times. -/
  | runs (items : List (Instant × TimeDimension)) (ascending : Ascending (items.map Prod.fst))
    (nonempty : items ≠ [])
  deriving DecidableEq

structure TimeAxis where
  generations : Generations
  /-- Nothing after the present is available. -/
  endsAtPresent : Bool := false
  deriving DecidableEq

namespace TimeAxis

def lastFor (reference : Instant) (items : List (Instant × TimeDimension)) :
    Option TimeDimension :=
  (items.reverse.find? fun item => item.1 = reference).map Prod.snd

/-- The runs in order of reference time; of several with one reference time the last counts. -/
def sortRuns (items : List (Instant × TimeDimension)) : List (Instant × TimeDimension) :=
  (Ascending.ofList (items.map Prod.fst)).filterMap fun r => (lastFor r items).map (r, ·)

theorem sortRuns_ascending (items : List (Instant × TimeDimension)) :
    Ascending ((sortRuns items).map Prod.fst) := by
  have h := Ascending.ofList_ascending (items.map Prod.fst)
  unfold sortRuns
  generalize Ascending.ofList (items.map Prod.fst) = rs at h
  refine List.Pairwise.sublist ?_ h
  induction rs with
  | nil => simp
  | cons r rs ih =>
    have ih := ih (List.Pairwise.of_cons h)
    simp only [List.filterMap_cons]
    cases lastFor r items with
    | none => exact ih.trans (List.sublist_cons_self _ _)
    | some d => exact ih.cons_cons r

def single (d : TimeDimension) : TimeAxis := { generations := .single d }

def ofRuns? (items : List (Instant × TimeDimension)) : Option TimeAxis :=
  if nonempty : sortRuns items ≠ [] then
    some { generations := .runs (sortRuns items) (sortRuns_ascending items) nonempty }
  else none

def limit (a : TimeAxis) (present : Instant) : Option Instant :=
  if a.endsAtPresent then some present else none

def latest (a : TimeAxis) : TimeDimension :=
  match a.generations with
  | .single d => d
  | .runs items _ nonempty => (items.getLast nonempty).2

def hasCurrent (a : TimeAxis) : Bool :=
  match a.generations with
  | .single _ => true
  | .runs items _ _ => items ≠ []

def select (a : TimeAxis) : Option Instant → Option TimeDimension
  | none => some a.latest
  | some reference => match a.generations with
    | .single _ => none
    | .runs items _ _ => (items.find? fun item => item.1 = reference).map Prod.snd

def references (a : TimeAxis) : List Instant :=
  match a.generations with
  | .single _ => []
  | .runs items _ _ => items.map Prod.fst

def hasReference (a : TimeAxis) (reference : Instant) : Bool := a.references.elem reference

def contains (a : TimeAxis) (present : Instant) (reference : Option Instant) (t : Instant) :
    Answer Bool :=
  match a.select reference with
  | none => some false
  | some d => d.contains (a.limit present) t

def last? (a : TimeAxis) (present : Instant) (reference : Option Instant) :
    Answer (Option Instant) :=
  match a.select reference with
  | none => some none
  | some d => d.last? (a.limit present)

def extent (a : TimeAxis) : String := a.latest.extent

end TimeAxis

end LayerAtlas
