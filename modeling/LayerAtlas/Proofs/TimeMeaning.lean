import LayerAtlas.Proofs.Axes
import LayerAtlas.Proofs.BuiltLayers
import LayerAtlas.Proofs.Dimensions

namespace LayerAtlas

open Instant

namespace ReportedTimes

def HasRun (items : List (Instant × List Instant)) (r : Instant) : Prop :=
  ∃ ts, (r, ts) ∈ items ∧ ts ≠ []

/-- The last run listed for a reference time, of those that have instants. -/
def LastRun (items : List (Instant × List Instant)) (r : Instant) (ts : List Instant) : Prop :=
  ts ≠ [] ∧ ∃ before after, items = before ++ (r, ts) :: after ∧
    ∀ run ∈ after, run.1 = r → run.2 = []

/-- The instants that can be asked for, where `timestep` replaces the step of a period. -/
def Offers (kind : LayerKind) (timestep : Option Int) (reference : Option Instant)
    (t : Instant) :
    ReportedTimes → Prop
  | none => False
  | timesteps ts => reference = .none ∧ t ∈ ts
  | runs items =>
    if kind = .rawModelOutput then reference = .none ∧ ∃ run ∈ items, t ∈ run.2
    else ∃ r ts, TimeAxis.Means (HasRun items) reference r ∧ LastRun items r ts ∧ t ∈ ts
  | period start stop minutes =>
    reference = .none ∧ start.Reaches (timestep.getD minutes) t ∧ t ≤ stop

/-- The instants that are reported as such, or that a period starts with. -/
def instants : ReportedTimes → List Instant
  | none => []
  | timesteps ts => ts
  | runs items => items.flatMap Prod.snd
  | period start _ _ => [start]

def StepFits (timestep : Option Int) : ReportedTimes → Prop
  | period _ _ minutes => timestep.getD minutes * 60 ≤ Text.maxInt64
  | _ => True

variable {items : List (Instant × List Instant)} {r : Instant} {ts : List Instant}

theorem lastRun_iff_find? :
    LastRun items r ts ↔
    items.reverse.find? (fun run => run.1 = r && run.2 ≠ []) = some (r, ts) := by
  rw [Checks.find?_reverse_eq_some_iff]
  simp only [LastRun, Bool.and_eq_true, Bool.and_eq_false_imp, decide_eq_true_eq,
    decide_eq_false_iff_not, true_and, ne_eq, Classical.not_not]

theorem hasRun_iff : HasRun items r ↔ ∃ ts, LastRun items r ts := by
  simp only [lastRun_iff_find?]
  apply Iff.intro
  · intro h
    obtain ⟨ts, hmem, hne⟩ := h
    cases hfind : items.reverse.find? fun run => run.1 = r && run.2 ≠ [] with
    | none =>
      have hnone := List.find?_eq_none.1 hfind (r, ts) (List.mem_reverse.2 hmem)
      simp [hne] at hnone
    | some run =>
      have hrun := List.find?_some hfind
      simp only [Bool.and_eq_true, decide_eq_true_eq] at hrun
      obtain ⟨rfl, _⟩ := hrun
      exact ⟨run.2, rfl⟩
  · intro h
    obtain ⟨ts, hfind⟩ := h
    have hrun := List.find?_some hfind
    simp only [Bool.and_eq_true, decide_eq_true_eq] at hrun
    exact ⟨ts, List.mem_reverse.1 (List.mem_of_find?_eq_some hfind), hrun.2⟩

/-- Runs without instants make no difference to which run is listed last. -/
theorem lastFor_runsOf {d : TimeDimension} : TimeAxis.lastFor r (Layer.runsOf items) = some d ↔
    ∃ ts, LastRun items r ts ∧ TimeDimension.ofInstants? ts = some d := by
  -- a run has a dimension exactly if it has instants
  have hkept : ∀ run : Instant × List Instant,
      (((TimeDimension.ofInstants? run.2).map fun d => (run.1, d)).any fun item => item.1 = r) =
        (run.1 = r && run.2 ≠ []) := by
    intro run
    cases hdim : TimeDimension.ofInstants? run.2 with
    | none =>
      rw [TimeDimension.ofInstants?_eq_none_iff] at hdim
      simp [hdim]
    | some d =>
      have hne : run.2 ≠ [] := by
        intro h
        rw [TimeDimension.ofInstants?_eq_none_iff.2 h] at hdim
        cases hdim
      simp [hne]
  rw [TimeAxis.lastFor, Layer.runsOf, ← List.filterMap_reverse, List.find?_filterMap]
  simp only [hkept, lastRun_iff_find?]
  apply Iff.intro
  · intro h
    obtain ⟨item, hitem, rfl⟩ := Option.map_eq_some_iff.1 h
    obtain ⟨run, hrun, hdim⟩ := Option.bind_eq_some_iff.1 hitem
    obtain ⟨d, hd, rfl⟩ := Option.map_eq_some_iff.1 hdim
    have hr := List.find?_some hrun
    simp only [Bool.and_eq_true, decide_eq_true_eq] at hr
    obtain ⟨rfl, _⟩ := hr
    exact ⟨run.2, hrun, hd⟩
  · intro h'
    obtain ⟨ts, hrun, hd⟩ := h'
    rw [hrun, Option.bind_some, hd]
    rfl

theorem exists_lastFor_iff :
    (∃ d, TimeAxis.lastFor r (Layer.runsOf items) = some d) ↔ HasRun items r := by
  rw [hasRun_iff]
  apply Iff.intro
  · intro h
    obtain ⟨d, hd⟩ := h
    obtain ⟨ts, hts, _⟩ := lastFor_runsOf.1 hd
    exact ⟨ts, hts⟩
  · intro h
    obtain ⟨ts, hts⟩ := h
    obtain ⟨d, hd⟩ :=
      Option.ne_none_iff_exists'.1 (mt TimeDimension.ofInstants?_eq_none_iff.1 hts.1)
    exact ⟨d, lastFor_runsOf.2 ⟨ts, hts, hd⟩⟩

theorem LastRun.mem (h : LastRun items r ts) : (r, ts) ∈ items := by
  obtain ⟨_, before, after, rfl, _⟩ := h
  simp

end ReportedTimes

namespace TimeAxis

variable {a : TimeAxis} {items : List (Instant × TimeDimension)} {d : TimeDimension}
  {reference : Option Instant}

theorem mem_dimensions_of_select (h : a.select reference = some d) : d ∈ a.dimensions := by
  obtain ⟨generations, endsAtPresent⟩ := a
  cases reference with
  | none =>
    cases h
    cases generations with
    | single d => exact List.mem_singleton_self d
    | runs items asc nonempty => exact List.mem_map_of_mem (List.getLast_mem nonempty)
  | some r =>
    cases generations with
    | single d => cases h
    | runs items asc nonempty =>
      obtain ⟨item, hitem, rfl⟩ := Option.map_eq_some_iff.1 h
      exact List.mem_map_of_mem (List.mem_of_find?_eq_some hitem)

theorem mem_of_dimensions_ofRuns? (h : ofRuns? items = some a) (hd : d ∈ a.dimensions) :
    d ∈ items.map Prod.snd := by
  rw [ofRuns?] at h
  split at h
  · cases h
    obtain ⟨⟨r, d⟩, hitem, rfl⟩ := List.mem_map.1 hd
    exact List.mem_map_of_mem (mem_of_lastFor (mem_sortRuns.1 hitem))
  · cases h

theorem contains_ne_none_of_fitsBy {present t : Instant}
    (h : ∀ d ∈ a.dimensions, d.FitsBy (a.limit present)) :
    a.contains present reference t ≠ none := by
  rw [contains]
  cases hselect : a.select reference with
  | none => exact Option.some_ne_none _
  | some d =>
    exact TimeDimension.contains_ne_none_of_fitsBy (h d (mem_dimensions_of_select hselect))

end TimeAxis

namespace Layer

open ReportedTimes (HasRun LastRun)

variable {kind : LayerKind} {d : Definition} {a : TimeAxis}
  {limit reference : Option Instant} {t : Instant}

theorem dimensionsOf_cases {times : ReportedTimes} {dimension : TimeDimension}
    (h : dimensionsOf kind d times = .ok (some a)) (hd : dimension ∈ a.dimensions) :
    (∃ s, dimension = .steps s) ∨
    (∃ ts i, TimeDimension.evenInterval ts = some i ∧ dimension = .ofInterval i) ∨
      ∃ start stop minutes i, times = .period start stop minutes ∧
        TimeInterval.make start stop (d.timestep.getD minutes) = .ok i ∧
        dimension = .ofInterval i := by
  have hinstants : ∀ ts, TimeDimension.ofInstants? ts = some dimension →
      (∃ s, dimension = .steps s) ∨ ∃ ts i, TimeDimension.evenInterval ts = some i ∧
        dimension = .ofInterval i := by
    intro ts hts
    obtain ⟨s, _, ⟨i, heven, hi⟩ | ⟨_, hs⟩⟩ := TimeDimension.ofInstants?_cases hts
    · exact .inr ⟨s.times, i, heven, hi⟩
    · exact .inl ⟨s, hs⟩
  rw [← or_assoc]
  cases times with
  | none => cases h
  | timesteps ts =>
    obtain ⟨dimension, hdimension, rfl⟩ := Option.map_eq_some_iff.1 (Except.ok.inj h)
    cases List.mem_singleton.1 hd
    split at hdimension
    · obtain ⟨s, _, hs⟩ := Option.map_eq_some_iff.1 hdimension
      exact .inl (.inl ⟨s, hs.symm⟩)
    · exact .inl (hinstants ts hdimension)
  | runs items =>
    rw [dimensionsOf] at h
    split at h
    · obtain ⟨dimension, hdimension, rfl⟩ := Option.map_eq_some_iff.1 (Except.ok.inj h)
      cases List.mem_singleton.1 hd
      exact .inl (hinstants _ hdimension)
    · obtain ⟨item, hitem, rfl⟩ :=
        List.mem_map.1 (TimeAxis.mem_of_dimensions_ofRuns? (Except.ok.inj h) hd)
      obtain ⟨run, _, hrun⟩ := List.mem_filterMap.1 hitem
      obtain ⟨dimension, hdimension, rfl⟩ := Option.map_eq_some_iff.1 hrun
      exact .inl (hinstants run.2 hdimension)
  | period start stop minutes =>
    obtain ⟨i, hi, heq⟩ := Checks.map_eq_ok.1 h
    cases heq
    exact .inr ⟨start, stop, minutes, i, rfl, hi, List.mem_singleton.1 hd⟩

theorem fitsBy_of_dimensionsOf {times : ReportedTimes} {dimension : TimeDimension}
    (h : dimensionsOf kind d times = .ok (some a)) (hfits : times.StepFits d.timestep)
    (hd : dimension ∈ a.dimensions) : dimension.FitsBy limit := by
  obtain ⟨s, rfl⟩ | ⟨_, i, heven, rfl⟩ | ⟨_, _, minutes, i, rfl, hi, rfl⟩ :=
    dimensionsOf_cases h hd
  · trivial
  · intro j hj _
    rw [List.mem_singleton.1 hj]
    exact TimeDimension.evenInterval_fits heven
  · intro j hj _
    rw [List.mem_singleton.1 hj, TimeInterval.StepFits, (TimeInterval.make_eq_ok.1 hi).2.2]
    exact hfits

theorem holds_of_timesteps {ts : List Instant} (hleap : ∀ u ∈ ts, ¬ u.IsLeap) (ht : ¬ t.IsLeap)
    (h : dimensionsOf kind d (.timesteps ts) = .ok (some a)) :
    a.Holds limit reference t ↔ (reference = none ∧ t ∈ ts) ∧ ∀ l, limit = some l → t ≤ l := by
  obtain ⟨dimension, hdimension, rfl⟩ := Option.map_eq_some_iff.1 (Except.ok.inj h)
  rw [TimeAxis.holds_single, and_assoc]
  refine and_congr_right fun _ => ?_
  split at hdimension
  · obtain ⟨s, hs, rfl⟩ := Option.map_eq_some_iff.1 hdimension
    rw [TimeDimension.contains_steps_iff, Steps.mem_times_of_ofList? hs]
  · exact (Answer.decides_iff.1 (TimeDimension.contains_of_ofInstants? hleap ht hdimension)).2

theorem holds_of_joined_runs {items : List (Instant × List Instant)}
    (hleap : ∀ u ∈ items.flatMap Prod.snd, ¬ u.IsLeap) (ht : ¬ t.IsLeap)
    (h : dimensionsOf .rawModelOutput d (.runs items) = .ok (some a)) :
    a.Holds limit reference t ↔
      (reference = none ∧ ∃ run ∈ items, t ∈ run.2) ∧ ∀ l, limit = some l → t ≤ l := by
  rw [dimensionsOf, if_pos rfl] at h
  obtain ⟨dimension, hdimension, rfl⟩ := Option.map_eq_some_iff.1 (Except.ok.inj h)
  rw [TimeAxis.holds_single, and_assoc,
    (Answer.decides_iff.1 (TimeDimension.contains_of_ofInstants? hleap ht hdimension)).2,
    List.mem_flatMap]

theorem holds_of_runs {items : List (Instant × List Instant)}
    (hleap : ∀ u ∈ items.flatMap Prod.snd, ¬ u.IsLeap) (ht : ¬ t.IsLeap)
    (hkind : kind ≠ .rawModelOutput) (h : dimensionsOf kind d (.runs items) = .ok (some a)) :
    a.Holds limit reference t ↔
      (∃ r ts, TimeAxis.Means (HasRun items) reference r ∧ LastRun items r ts ∧ t ∈ ts) ∧
        ∀ l, limit = some l → t ≤ l := by
  rw [dimensionsOf, if_neg hkind] at h
  have hruns : (fun r => ∃ d, TimeAxis.lastFor r (runsOf items) = some d) = HasRun items :=
    funext fun r => propext ReportedTimes.exists_lastFor_iff
  have hcontains :
      ∀ {r ts dimension}, LastRun items r ts → TimeDimension.ofInstants? ts = some dimension →
        (dimension.contains limit t = some true ↔ t ∈ ts ∧ ∀ l, limit = some l → t ≤ l) := by
    intro r ts dimension hts hdimension
    refine (Answer.decides_iff.1 (TimeDimension.contains_of_ofInstants? ?_ ht hdimension)).2
    exact fun u hu => hleap u (List.mem_flatMap_of_mem hts.mem hu)
  rw [TimeAxis.holds_ofRuns? (Except.ok.inj h), hruns]
  simp only [ReportedTimes.lastFor_runsOf]
  apply Iff.intro
  · intro h'
    obtain ⟨r, dimension, hr, ⟨ts, hts, hdimension⟩, hmem⟩ := h'
    obtain ⟨hmem, hlimit⟩ := (hcontains hts hdimension).1 hmem
    exact ⟨⟨r, ts, hr, hts, hmem⟩, hlimit⟩
  · intro h'
    obtain ⟨⟨r, ts, hr, hts, hmem⟩, hlimit⟩ := h'
    obtain ⟨dimension, hdimension⟩ :=
      Option.ne_none_iff_exists'.1 (mt TimeDimension.ofInstants?_eq_none_iff.1 hts.1)
    exact ⟨r, dimension, hr, ⟨ts, hts, hdimension⟩, (hcontains hts hdimension).2 ⟨hmem, hlimit⟩⟩

theorem holds_of_period {start stop : Instant} {minutes : Int} (hleap : ¬ start.IsLeap)
    (ht : ¬ t.IsLeap) (hfits : d.timestep.getD minutes * 60 ≤ Text.maxInt64)
    (h : dimensionsOf kind d (.period start stop minutes) = .ok (some a)) :
    a.Holds limit reference t ↔
      (reference = none ∧ start.Reaches (d.timestep.getD minutes) t ∧ t ≤ stop) ∧
        ∀ l, limit = some l → t ≤ l := by
  obtain ⟨i, hi, heq⟩ := Checks.map_eq_ok.1 h
  cases heq
  obtain ⟨rfl, rfl, hstep⟩ := TimeInterval.make_eq_ok.1 hi
  rw [← hstep] at hfits ⊢
  rw [TimeAxis.holds_single, TimeDimension.contains_ofInterval,
    TimeInterval.contains_iff hleap ht, and_iff_right (show i.StepFits from hfits),
    and_assoc, and_assoc]

theorem holds_iff {times : ReportedTimes} (hleap : ∀ u ∈ times.instants, ¬ u.IsLeap)
    (ht : ¬ t.IsLeap) (hfits : times.StepFits d.timestep)
    (h : dimensionsOf kind d times = .ok (some a)) :
    a.Holds limit reference t ↔
      times.Offers kind d.timestep reference t ∧ ∀ l, limit = some l → t ≤ l := by
  cases times with
  | none => cases h
  | timesteps ts => exact holds_of_timesteps hleap ht h
  | runs items =>
    by_cases hkind : kind = .rawModelOutput
    · subst hkind
      rw [ReportedTimes.Offers, if_pos rfl]
      exact holds_of_joined_runs hleap ht h
    · rw [ReportedTimes.Offers, if_neg hkind]
      exact holds_of_runs hleap ht hkind h
  | period start stop minutes =>
    exact holds_of_period (hleap start (List.mem_singleton_self start)) ht hfits h

/-- A layer with a time axis says of every instant whether it accepts it, and accepts it for a
run, or for the latest one, if the backend reported it for that run and, where the times are
those of observations, if it is not after the present. -/
theorem acceptsTime_iff {references : List Reference} {source : Source} {metadata : Metadata}
    {now present : Instant} {l : Layer}
    (h : build references source d kind metadata now = .ok l) (htemporal : l.isTemporal = true)
    (hleap : ∀ u ∈ metadata.times.instants, ¬ u.IsLeap) (ht : ¬ t.IsLeap)
    (hfits : metadata.times.StepFits d.timestep) :
    (l.acceptsTime present reference t).Decides
      (metadata.times.Offers kind d.timestep reference t ∧
        (kind = .stationObservation → t ≤ present)) := by
  obtain ⟨a, hdimensions, haxis⟩ := timeAxis?_of_build h htemporal
  simp only [acceptsTime, haxis]
  refine Answer.decides_iff.2 ⟨?_, ?_⟩
  · apply TimeAxis.contains_ne_none_of_fitsBy
    exact fun dimension hd => fitsBy_of_dimensionsOf hdimensions hfits hd
  · rw [TimeAxis.contains_iff]
    change a.Holds _ reference t ↔ _
    rw [holds_iff hleap ht hfits hdimensions]
    refine and_congr_right fun _ => ?_
    by_cases hkind : kind = .stationObservation
    · simp [TimeAxis.limit, hkind]
    · simp [TimeAxis.limit, hkind]

def hour (n : Fin 24) : Instant where
  seconds := n.val * 3600
  nanos := 500000000
  inRange := by omega
  nanos_lt := by decide
  leap_ends_minute := by intro h; contradiction

def forecastRuns : List (Instant × List Instant) :=
  [(hour 12, [hour 15, hour 13, hour 14]), (hour 6, [hour 9]), (hour 12, [])]

def forecastMetadata : Metadata :=
  { bbox := .world, times := .runs forecastRuns, levels := none }

def forecastSource : Source :=
  { customer := "north", nameSpace := "north", stem := "wind", path := "wind.json",
    modified := none }

/-- Of runs in any order, one of them empty, that of hour 12 is the latest. -/
theorem acceptsTime_forecast :
    ∃ l, build [] forecastSource {} .griddedForecast forecastMetadata (hour 12) = .ok l ∧
      l.acceptsTime (hour 12) none (hour 14) = some true := by
  have haxis : ∃ a, axisOf .griddedForecast {} forecastMetadata.times = .ok (some a) := ⟨_, rfl⟩
  obtain ⟨a, ha⟩ := haxis
  have hbuild : build [] forecastSource {} .griddedForecast forecastMetadata (hour 12) =
      .ok (assemble [] forecastSource {} .griddedForecast forecastMetadata
      (hour 12) (some a)) :=
    build_eq_ok.2 ⟨by decide, _, ha, .inl rfl, rfl⟩
  have hlatest : TimeAxis.Means (HasRun forecastRuns) none (hour 12) := by
    refine ⟨⟨_, List.mem_cons_self, List.cons_ne_nil _ _⟩, ?_⟩
    rintro r ⟨ts, hmem, _⟩
    have hr : r = hour 12 ∨ r = hour 6 := by
      simp [forecastRuns] at hmem
      tauto
    rcases hr with rfl | rfl
    · decide
    · decide
  have hlast : LastRun forecastRuns (hour 12) [hour 15, hour 13, hour 14] := by
    refine ⟨List.cons_ne_nil _ _, [], [(hour 6, [hour 9]), (hour 12, [])], rfl, ?_⟩
    decide
  refine ⟨_, hbuild,
    (acceptsTime_iff hbuild rfl (by decide) (by decide) trivial).eq_true ⟨?_, ?_⟩⟩
  · exact ⟨hour 12, _, hlatest, hlast, by decide⟩
  · intro h
    cases h

end Layer

end LayerAtlas
