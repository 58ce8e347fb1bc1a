import LayerAtlas.Proofs.Checks
import LayerAtlas.Proofs.Instants
import LayerAtlas.Time.Request

namespace LayerAtlas.TimeSpec

open Instant

variable {now start stop t u : Instant} {minutes : Int} {room : Nat} {spec : TimeSpec}
  {ts : List Instant}

/-- The element stands for these instants, and fails only where there is no room for them. -/
def Expands (now : Instant) (spec : TimeSpec) (ts : List Instant) : Prop :=
  ∀ room, spec.expandWithin now room =
    if ts.length ≤ room then .ok ts else .error (.tooManyValues maxTimeValues)

theorem expands_single (now t : Instant) : Expands now (single t) [t] := by
  intro room
  rw [expandWithin, List.length_singleton]
  cases room with
  | zero => rfl
  | succ room => rfl

theorem progression_past {step : Int} (h : ¬ t ≤ stop) (room : Nat) :
    progression step stop room t = some [] := by
  cases room with
  | zero => rw [progression, if_neg h]
  | succ room => rw [progression, if_neg h]

theorem progression_last {step : Int} (h : t ≤ stop) (hnext : t.shift step = none)
    (room : Nat) :
    progression step stop room t = if [t].length ≤ room then some [t] else none := by
  cases room with
  | zero =>
    rw [progression, if_pos h]
    rfl
  | succ room =>
    have hone : [t].length ≤ room + 1 := Nat.le_add_left 1 room
    rw [progression, if_pos h, hnext, if_pos hone]

theorem progression_step {step : Int} (h : t ≤ stop) (hnext : t.shift step = some u)
    (hrest : ∀ room, progression step stop room u = if ts.length ≤ room then some ts else none)
    (room : Nat) :
    progression step stop room t = if (t :: ts).length ≤ room then some (t :: ts)
      else none := by
  cases room with
  | zero =>
    rw [progression, if_pos h]
    rfl
  | succ room =>
    rw [progression, if_pos h, hnext]
    simp only [hrest, List.length_cons, Nat.add_le_add_iff_right]
    split
    · rfl
    · rfl

/-- The instants that steps lead through from a start up to an end: no more than there are, and
none if the start is after the end. -/
inductive Walks (step : Int) (stop : Instant) : Instant → List Instant → Prop where
  | past {t : Instant} (hend : ¬ t ≤ stop) : Walks step stop t []
  | last {t : Instant} (hend : t ≤ stop) (hnext : t.shift step = none) : Walks step stop t [t]
  | step {t u : Instant} {ts : List Instant} (hend : t ≤ stop) (hnext : t.shift step = some u)
      (hrest : Walks step stop u ts) : Walks step stop t (t :: ts)

theorem Walks.progression_eq {step : Int} (h : Walks step stop t ts) (room : Nat) :
    progression step stop room t = if ts.length ≤ room then some ts else none := by
  induction h generalizing room with
  | past hend => exact (progression_past hend room).trans (if_pos (Nat.zero_le room)).symm
  | last hend hnext => exact progression_last hend hnext room
  | step hend hnext _ ih => exact progression_step hend hnext ih room

theorem walks_of_progression {step : Int} (h : progression step stop room t = some ts) :
    Walks step stop t ts := by
  by_cases hend : t ≤ stop
  · induction room generalizing t ts with
    | zero =>
      rw [progression, if_pos hend] at h
      cases h
    | succ room ih =>
      rw [progression, if_pos hend] at h
      cases hnext : t.shift step with
      | none =>
        rw [hnext] at h
        cases h
        exact .last hend hnext
      | some u =>
        rw [hnext] at h
        obtain ⟨rest, hrest, rfl⟩ := Option.map_eq_some_iff.1 h
        by_cases hu : u ≤ stop
        · exact .step hend hnext (ih hrest hu)
        · rw [progression_past hu] at hrest
          cases hrest
          exact .step hend hnext (.past hu)
  · rw [progression_past hend] at h
    cases h
    exact .past hend

theorem exists_walks (stop : Instant) {step : Int} (hpos : 0 < step) (t : Instant) :
    ∃ ts, Walks step stop t ts := by
  generalize hdistance : (stop.seconds + 1 - t.seconds).toNat = distance
  -- every step brings the end nearer
  induction distance using Nat.strongRecOn generalizing t with
  | ind distance ih =>
    by_cases hend : t ≤ stop
    · cases hnext : t.shift step with
      | none => exact ⟨[t], .last hend hnext⟩
      | some next =>
        have hseconds : next.seconds = t.seconds + step := seconds_of_shift hpos hnext
        have hnearer : (stop.seconds + 1 - next.seconds).toNat < distance := by
          rw [Instant.le_iff] at hend
          omega
        obtain ⟨ts, hrest⟩ := ih _ hnearer next rfl
        exact ⟨t :: ts, .step hend hnext hrest⟩
    · exact ⟨[], .past hend⟩

theorem Walks.mem_iff (hpos : 0 < minutes) (ht : ¬ t.IsLeap)
    (h : Walks (minutes * 60) stop t ts) :
    u ∈ ts ↔ t.Reaches minutes u ∧ u ≤ stop := by
  induction h with
  | past hend =>
    refine iff_of_false List.not_mem_nil ?_
    rintro ⟨hreaches, hle⟩
    exact hend (le_trans (hreaches.le ht hpos) hle)
  | last hend hnext =>
    rw [List.mem_singleton]
    apply Iff.intro
    · rintro rfl
      exact ⟨reaches_self minutes u, hend⟩
    · intro h
      exact eq_of_reaches_of_shift ht hpos hnext h.1
  | step hend hnext _ ih =>
    obtain ⟨hseconds, hnanos⟩ := (shift_eq_some_iff ht).1 hnext
    rw [List.mem_cons, ih (not_isLeap_of_nanos ht hnanos),
      reaches_iff_of_step ht hseconds hnanos, or_and_right]
    refine or_congr_left (and_iff_left_of_imp ?_).symm
    rintro rfl
    exact hend

theorem expands_interval {start stop : TimePoint} (hle : start.resolve now ≤ stop.resolve now)
    (hpos : 0 < minutes) (hstep : minutes ≤ maxStep)
    (h : Walks (minutes * 60) (stop.resolve now) (start.resolve now) ts) :
    Expands now (interval start stop minutes) ts := by
  intro room
  rw [expandWithin]
  simp only [if_neg (not_lt.2 hle), if_neg (Int.not_le.2 hpos), if_neg (Int.not_lt.2 hstep),
    h.progression_eq room]
  by_cases hts : ts.length ≤ room
  · rw [if_pos hts, if_pos hts]
  · rw [if_neg hts, if_neg hts]

theorem exists_expands_interval (hpos : 0 < minutes) (hstep : minutes ≤ maxStep)
    (hleap : ¬ start.IsLeap) (hle : start ≤ stop) :
    ∃ ts, (∀ now, Expands now (interval (.at start) (.at stop) minutes) ts) ∧
      ∀ u, u ∈ ts ↔ start.Reaches minutes u ∧ u ≤ stop := by
  have hforward : 0 < minutes * 60 := by omega
  obtain ⟨ts, hwalks⟩ := exists_walks stop hforward start
  exact ⟨ts, fun now => expands_interval hle hpos hstep hwalks, fun u =>
    hwalks.mem_iff hpos hleap⟩

theorem expandAllWithin_of_expands {specs : List TimeSpec} {tss : List (List Instant)}
    (h : List.Forall₂ (Expands now) specs tss) (room : Nat) :
    expandAllWithin now room specs =
      if tss.flatten.length ≤ room then .ok tss.flatten
      else .error (.tooManyValues maxTimeValues) := by
  induction h generalizing room with
  | nil => rfl
  | cons hspec _ ih =>
    rename_i spec ts specs tss _
    rw [expandAllWithin, hspec room]
    rw [List.flatten_cons, List.length_append]
    by_cases hts : ts.length ≤ room
    · rw [if_pos hts]
      change (expandAllWithin now (room - ts.length) specs >>= fun more => pure (ts ++ more)) =
        _
      rw [ih]
      by_cases hmore : tss.flatten.length ≤ room - ts.length
      · rw [if_pos hmore, if_pos (by omega)]
        rfl
      · rw [if_neg hmore, if_neg (by omega)]
        rfl
    · rw [if_neg hts, if_neg (by omega)]
      rfl

/-- What the expansion of an interval yields: nothing if it has no step, and else a series. -/
theorem expandWithin_interval_eq_ok {start stop : TimePoint}
    (h : (interval start stop minutes).expandWithin now room = .ok ts) :
    start.resolve now ≤ stop.resolve now ∧
    ((minutes ≤ 0 ∧ ts = []) ∨ (0 < minutes ∧ minutes ≤ maxStep ∧
      progression (minutes * 60) (stop.resolve now) room (start.resolve now) = some ts)) := by
  simp only [expandWithin] at h
  split at h
  · cases h
  rename_i hordered
  have hle : start.resolve now ≤ stop.resolve now := not_lt.1 hordered
  split at h
  · rename_i hnone
    cases h
    exact ⟨hle, .inl ⟨hnone, rfl⟩⟩
  rename_i hpos
  split at h
  · cases h
  rename_i hshort
  refine ⟨hle, .inr ⟨Int.not_le.1 hpos, Int.not_lt.1 hshort, ?_⟩⟩
  split at h
  · rename_i us hus
    cases h
    exact hus
  · cases h

theorem progression_ne_nil {step : Int} (hle : t ≤ stop)
    (h : progression step stop room t = some ts) :
    ts ≠ [] := by
  cases walks_of_progression h with
  | past hend => exact absurd hle hend
  | last => exact List.cons_ne_nil _ _
  | step => exact List.cons_ne_nil _ _

def IsStepless : TimeSpec → Prop
  | interval _ _ minutes => minutes ≤ 0
  | _ => False

theorem expandWithin_eq_nil_iff (h : spec.expandWithin now room = .ok ts) :
    ts = [] ↔ spec.IsStepless := by
  cases spec with
  | current =>
    rw [expandWithin] at h
    split at h
    · cases h
    · cases h
      exact iff_of_false (List.cons_ne_nil _ _) id
  | single t =>
    rw [expandWithin] at h
    split at h
    · cases h
    · cases h
      exact iff_of_false (List.cons_ne_nil _ _) id
  | interval start stop minutes =>
    obtain ⟨hle, ⟨hnone, hts⟩ | ⟨hpos, _, hseries⟩⟩ := expandWithin_interval_eq_ok h
    · exact iff_of_true hts hnone
    · exact iff_of_false (progression_ne_nil hle hseries) (Int.not_le.2 hpos)

theorem expandAllWithin_eq_ok {specs : List TimeSpec}
    (h : expandAllWithin now room specs = .ok ts) :
    ∃ tss, ts = tss.flatten ∧
      List.Forall₂ (fun spec us => ∃ room, spec.expandWithin now room = .ok us) specs tss := by
  induction specs generalizing room ts with
  | nil =>
    cases h
    exact ⟨[], rfl, .nil⟩
  | cons spec specs ih =>
    rw [expandAllWithin] at h
    obtain ⟨us, hus, h⟩ := Checks.bind_eq_ok.1 h
    obtain ⟨more, hmore, h⟩ := Checks.bind_eq_ok.1 h
    obtain ⟨tss, rfl, hall⟩ := ih hmore
    cases h
    exact ⟨us :: tss, rfl, .cons ⟨room, hus⟩ hall⟩

theorem expandAll_eq_nil_iff {specs : List TimeSpec} (h : expandAll now specs = .ok ts) :
    ts = [] ↔ ∀ spec ∈ specs, spec.IsStepless := by
  obtain ⟨tss, rfl, hall⟩ := expandAllWithin_eq_ok h
  rw [List.flatten_eq_nil_iff]
  apply Iff.intro
  · intro hnil spec hspec
    obtain ⟨us, hus, room, hexpand⟩ := Checks.forall₂_exists hall hspec
    exact (expandWithin_eq_nil_iff hexpand).1 (hnil us hus)
  · intro hstepless us hus
    obtain ⟨spec, hspec, room, hexpand⟩ := Checks.forall₂_exists hall.flip hus
    exact (expandWithin_eq_nil_iff hexpand).2 (hstepless spec hspec)

theorem length_progression_le {step : Int} (h : progression step stop room t = some ts) :
    ts.length ≤ room := by
  rw [(walks_of_progression h).progression_eq] at h
  exact (Option.ite_none_right_eq_some.1 h).1

theorem length_expandWithin_le (h : spec.expandWithin now room = .ok ts) :
    ts.length ≤ room := by
  cases spec with
  | current =>
    rw [expandWithin] at h
    split at h
    · cases h
    · cases h
      exact Nat.one_le_iff_ne_zero.2 ‹_›
  | single t =>
    rw [expandWithin] at h
    split at h
    · cases h
    · cases h
      exact Nat.one_le_iff_ne_zero.2 ‹_›
  | interval start stop minutes =>
    obtain ⟨_, ⟨_, rfl⟩ | ⟨_, _, hseries⟩⟩ := expandWithin_interval_eq_ok h
    · exact Nat.zero_le room
    · exact length_progression_le hseries

theorem length_expandAllWithin_le {specs : List TimeSpec}
    (h : expandAllWithin now room specs = .ok ts) :
    ts.length ≤ room := by
  induction specs generalizing room ts with
  | nil =>
    cases h
    exact Nat.zero_le room
  | cons spec specs ih =>
    rw [expandAllWithin] at h
    obtain ⟨us, hus, h⟩ := Checks.bind_eq_ok.1 h
    obtain ⟨more, hmore, h⟩ := Checks.bind_eq_ok.1 h
    cases h
    have hfirst := length_expandWithin_le hus
    have hrest := ih hmore
    rw [List.length_append]
    omega

theorem expandAll_singles (now : Instant) (ts : List Instant) : expandAll now (ts.map single) =
    if ts.length ≤ maxTimeValues then .ok ts else .error (.tooManyValues maxTimeValues) := by
  have hall : List.Forall₂ (Expands now) (ts.map single) (ts.map fun t => [t]) :=
    List.forall₂_map_left_iff.2
      (List.forall₂_map_right_iff.2 (List.forall₂_same.2 fun t _ => expands_single now t))
  have hflatten : (ts.map fun t => [t]).flatten = ts := by simp [← List.flatMap_def]
  rw [expandAll, expandAllWithin_of_expands hall, hflatten]

end LayerAtlas.TimeSpec
