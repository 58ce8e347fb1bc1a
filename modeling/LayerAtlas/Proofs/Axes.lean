import LayerAtlas.Time.Axis
import LayerAtlas.Proofs.Checks
import LayerAtlas.Proofs.Instants

namespace LayerAtlas.TimeAxis

/-- The run that a request means: the one it names, or the one with the greatest reference
time. -/
def Means (isRun : Instant → Prop) : Option Instant → Instant → Prop
  | some reference, r => r = reference
  | none, r => isRun r ∧ ∀ r', isRun r' → r' ≤ r

/-- Some dimension answers a request and contains an instant. -/
def Holds (a : TimeAxis) (limit reference : Option Instant) (t : Instant) : Prop :=
  ∃ d, a.select reference = some d ∧ d.contains limit t = some true

variable {a : TimeAxis} {items : List (Instant × TimeDimension)} {d : TimeDimension}
  {r t : Instant}
  {limit reference : Option Instant}

theorem contains_iff {present : Instant} :
    a.contains present reference t = some true ↔ a.Holds (a.limit present) reference t := by
  rw [contains, Holds]
  cases a.select reference with
  | none => simp
  | some d => simp

theorem holds_single : (single d).Holds limit reference t ↔
    reference = none ∧ d.contains limit t = some true := by
  cases reference with
  | none =>
    apply Iff.intro
    · intro h'
      obtain ⟨d', hd', ht⟩ := h'
      cases hd'
      exact ⟨rfl, ht⟩
    · intro h'
      obtain ⟨_, ht⟩ := h'
      exact ⟨d, rfl, ht⟩
  | some r =>
    apply Iff.intro
    · intro h'
      obtain ⟨d', hd', _⟩ := h'
      cases hd'
    · intro h'
      obtain ⟨h, _⟩ := h'
      cases h

theorem mem_of_lastFor (h : lastFor r items = some d) : (r, d) ∈ items := by
  obtain ⟨⟨r', d'⟩, hfind, rfl⟩ := Option.map_eq_some_iff.1 h
  have hr : r' = r := by simpa using List.find?_some hfind
  subst hr
  exact List.mem_reverse.1 (List.mem_of_find?_eq_some hfind)

theorem mem_sortRuns : (r, d) ∈ sortRuns items ↔ lastFor r items = some d := by
  rw [sortRuns, List.mem_filterMap]
  apply Iff.intro
  · intro h'
    obtain ⟨r', _, h⟩ := h'
    obtain ⟨d', hd', heq⟩ := Option.map_eq_some_iff.1 h
    cases heq
    exact hd'
  · intro h
    refine ⟨r, ?_, by rw [h]; rfl⟩
    rw [Ascending.mem_ofList]
    exact List.mem_map_of_mem (mem_of_lastFor h)

theorem find?_sortRuns : ((sortRuns items).find? fun run => run.1 = r).map Prod.snd = some d ↔
    lastFor r items = some d := by
  have hnodup := (sortRuns_ascending items).nodup
  rw [← mem_sortRuns, Option.map_eq_some_iff]
  apply Iff.intro
  · intro h
    obtain ⟨run, hfind, rfl⟩ := h
    obtain ⟨hmem, rfl⟩ := (Checks.find?_key_eq_some_iff hnodup).1 hfind
    exact hmem
  · intro hmem
    exact ⟨(r, d), (Checks.find?_key_eq_some_iff hnodup).2 ⟨hmem, rfl⟩, rfl⟩

theorem le_getLast (hasc : Ascending (items.map Prod.fst)) (hne : items ≠ [])
    {run : Instant × TimeDimension} (hrun : run ∈ items) : run.1 ≤ (items.getLast hne).1 := by
  have hpairwise := List.pairwise_map.1 hasc
  rw [← List.dropLast_concat_getLast hne] at hrun hpairwise
  rcases List.mem_append.1 hrun with hrun | hrun
  · have hlt := (List.pairwise_append.1 hpairwise).2.2 run hrun _ (List.mem_singleton_self _)
    exact le_of_lt hlt
  · rw [List.mem_singleton.1 hrun]

theorem select_some_ofRuns? (h : ofRuns? items = some a) :
    a.select (some r) = some d ↔ lastFor r items = some d := by
  rw [ofRuns?] at h
  split at h
  · cases h
    exact find?_sortRuns
  · cases h

theorem select_none_ofRuns? (h : ofRuns? items = some a) :
    a.select none = some d ↔
      ∃ r, Means (fun r => ∃ d, lastFor r items = some d) none r ∧
        lastFor r items = some d := by
  rw [ofRuns?] at h
  split at h
  · rename_i hne
    cases h
    -- the last run is the one that is meant, since only one run has the greatest reference time
    have hlast := mem_sortRuns.1 (List.getLast_mem hne)
    have hgreatest :
        ∀ r', (∃ d, lastFor r' items = some d) → r' ≤ ((sortRuns items).getLast hne).1 := by
      intro r' h
      obtain ⟨d, hd⟩ := h
      exact le_getLast (sortRuns_ascending items) hne (mem_sortRuns.2 hd)
    apply Iff.intro
    · intro h
      cases h
      exact ⟨_, ⟨⟨_, hlast⟩, hgreatest⟩, hlast⟩
    · intro h
      obtain ⟨r, ⟨hr, hle⟩, hd⟩ := h
      have heq := le_antisymm (hgreatest r hr) (hle _ ⟨_, hlast⟩)
      rw [heq, hlast] at hd
      exact hd
  · cases h

theorem holds_ofRuns? (h : ofRuns? items = some a) :
    a.Holds limit reference t ↔
    ∃ r d, Means (fun r => ∃ d, lastFor r items = some d) reference r ∧
      lastFor r items = some d ∧ d.contains limit t = some true := by
  cases reference with
  | some r =>
    apply Iff.intro
    · intro h'
      obtain ⟨d, hd, ht⟩ := h'
      exact ⟨r, d, rfl, (select_some_ofRuns? h).1 hd, ht⟩
    · intro h'
      obtain ⟨r', d, rfl, hd, ht⟩ := h'
      exact ⟨d, (select_some_ofRuns? h).2 hd, ht⟩
  | none =>
    apply Iff.intro
    · intro h'
      obtain ⟨d, hd, ht⟩ := h'
      obtain ⟨r, hr, hd⟩ := (select_none_ofRuns? h).1 hd
      exact ⟨r, d, hr, hd, ht⟩
    · intro h'
      obtain ⟨r, d, hr, hd, ht⟩ := h'
      exact ⟨d, (select_none_ofRuns? h).2 ⟨r, hr, hd⟩, ht⟩

end LayerAtlas.TimeAxis
