import LayerAtlas.Proofs.CurrentTimes

namespace LayerAtlas

open Instant Text

namespace TimeInterval

variable {i : TimeInterval}

theorem stepSeconds_ne_none_iff : i.stepSeconds ≠ none ↔ i.StepFits := by
  rw [stepSeconds_eq]
  split
  · rename_i hfits
    exact iff_of_true (Option.some_ne_none _) hfits
  · rename_i hfits
    exact iff_of_false (fun h => h rfl) hfits

theorem contains_ne_none_iff : (∀ limit t, i.contains limit t ≠ none) ↔ i.StepFits := by
  apply Iff.intro
  · intro h
    by_contra hfits
    -- the step is needed for the start already
    have hstart := h none i.start
    rw [contains_start (by rintro l ⟨⟩), if_neg hfits] at hstart
    exact hstart rfl
  · intro hfits limit t
    exact contains_ne_none fun _ => hfits

theorem lastBy_ne_none_iff : (∀ l, i.lastBy l ≠ none) ↔ i.StepFits := by
  simp only [Ne, lastBy_eq_none_iff, not_and, Classical.not_not]
  exact ⟨fun h => h i.start (le_refl _), fun hfits _ _ => hfits⟩

end TimeInterval

namespace Layer

variable {references : List Reference} {source : Source} {kind : LayerKind} {d : Definition}
  {metadata : Metadata} {now : Instant} {l : Layer}

theorem timeDisabled_of_build (h : build references source d kind metadata now = .ok l) :
    l.timeDisabled = d.disableTime := by
  obtain ⟨_, _, _, _, rfl⟩ := build_eq_ok.1 h
  rfl

theorem exists_period_of_build (h : build references source d kind metadata now = .ok l)
    (henabled : d.disableTime ≠ true) (hstep : ¬ metadata.times.StepFits d.timestep) :
    ∃ a i, l.timeAxis? = some a ∧ a.select none = some (.ofInterval i) ∧
      (a.endsAtPresent = true ↔ kind = .stationObservation) ∧ ¬ i.StepFits := by
  obtain ⟨_, time, haxis, _, rfl⟩ := build_eq_ok.1 h
  obtain ⟨axis, hdimensions, rfl⟩ := axisOf_eq_ok.1 haxis
  cases htimes : metadata.times with
  | period start stop minutes =>
    rw [htimes] at hdimensions hstep
    obtain ⟨i, hi, heq⟩ := Checks.map_eq_ok.1 hdimensions
    cases heq
    refine ⟨_, i, if_neg henabled, rfl, decide_eq_true_iff, ?_⟩
    rw [TimeInterval.StepFits, (TimeInterval.make_eq_ok.1 hi).2.2]
    exact hstep
  | _ =>
    rw [htimes] at hstep
    exact absurd trivial hstep

theorem fitsBy_of_build {a : TimeAxis} {limit : Option Instant}
    (h : build references source d kind metadata now = .ok l)
    (hstep : d.disableTime = true ∨ metadata.times.StepFits d.timestep)
    (haxis : l.timeAxis? = some a) : ∀ dimension ∈ a.dimensions, dimension.FitsBy limit := by
  have henabled := (Option.ite_none_left_eq_some.1 haxis).1
  rw [timeDisabled_of_build h] at henabled
  have htemporal : l.isTemporal = true := by rw [isTemporal, haxis, Option.isSome_some]
  obtain ⟨b, hdimensions, hb⟩ := timeAxis?_of_build h htemporal
  cases haxis.symm.trans hb
  intro dimension hd
  exact fitsBy_of_dimensionsOf hdimensions (hstep.resolve_left henabled) hd

theorem acceptsTime_ne_none_iff (h : build references source d kind metadata now = .ok l) :
    (∀ present reference t, l.acceptsTime present reference t ≠ none) ↔
      d.disableTime = true ∨ metadata.times.StepFits d.timestep := by
  apply Iff.intro
  · intro hanswers
    by_contra hnot
    obtain ⟨henabled, hstep⟩ := not_or.1 hnot
    obtain ⟨a, i, haxis, hselect, _, hfits⟩ := exists_period_of_build h henabled hstep
    have hlimit : ∀ m, a.limit i.start = some m → i.start ≤ m := by
      intro m hm
      cases (Option.ite_none_right_eq_some.1 hm).2
      exact le_refl _
    refine hanswers i.start none i.start ?_
    rw [acceptsTime_of_select haxis hselect, TimeDimension.contains_ofInterval,
      TimeInterval.contains_start hlimit, if_neg hfits]
  · intro hstep present reference t
    cases haxis : l.timeAxis? with
    | none =>
      simp only [acceptsTime, haxis]
      exact Option.some_ne_none true
    | some a =>
      simp only [acceptsTime, haxis]
      exact TimeAxis.contains_ne_none_of_fitsBy (fitsBy_of_build h hstep haxis)

theorem lastTime?_ne_none_iff (h : build references source d kind metadata now = .ok l) :
    (∀ present reference, l.lastTime? present reference ≠ none) ↔
      d.disableTime = true ∨ kind ≠ .stationObservation ∨
        metadata.times.StepFits d.timestep := by
  simp only [Ne, lastTime?_eq_none_iff]
  apply Iff.intro
  · intro hanswers
    by_contra hnot
    obtain ⟨henabled, hnot⟩ := not_or.1 hnot
    obtain ⟨hkind, hstep⟩ := not_or.1 hnot
    obtain ⟨a, i, haxis, hselect, hends, hfits⟩ := exists_period_of_build h henabled hstep
    refine hanswers i.start none ⟨a, _, haxis, hselect, hends.2 (Classical.not_not.1 hkind), ?_⟩
    exact fun hby =>
      hfits (hby i (List.mem_singleton_self i) (decide_eq_true (le_refl i.start)))
  · rintro hstep present reference ⟨a, dimension, haxis, hselect, hends, hfits⟩
    have htime := (Option.ite_none_left_eq_some.1 haxis).2
    have hkind : l.kind = .stationObservation :=
      ((build_wellFormed h).endsAtPresent a htime).1 hends
    obtain ⟨_, _, _, _, rfl⟩ := build_eq_ok.1 h
    have hstep := hstep.imp_right fun hor => hor.resolve_left fun hne => hne hkind
    exact hfits
      (fitsBy_of_build h hstep haxis dimension (TimeAxis.mem_dimensions_of_select hselect))

/-- All questions about an interval are answered exactly if the seconds of its step are a signed
number of 64 bits. Those about the times of a layer are answered unless the layer has the times
of a period with a longer step; that for the last time, unless the period is one of observations
too. -/
theorem answers_iff (start stop : Instant) (minutes : Int) (references : List Reference)
    (source : Source) (d : Definition) (kind : LayerKind) (metadata : Metadata)
    (now : Instant) :
    (∀ i, TimeInterval.make start stop minutes = .ok i →
      (i.stepSeconds ≠ none ↔ minutes * 60 ≤ maxInt64) ∧
      ((∀ limit t, i.contains limit t ≠ none) ↔ minutes * 60 ≤ maxInt64) ∧
      ((∀ l, i.lastBy l ≠ none) ↔ minutes * 60 ≤ maxInt64)) ∧
    ∀ l, build references source d kind metadata now = .ok l →
      ((∀ present reference t, l.acceptsTime present reference t ≠ none) ↔
        d.disableTime = true ∨ metadata.times.StepFits d.timestep) ∧
      ((∀ present reference, l.lastTime? present reference ≠ none) ↔
        d.disableTime = true ∨ kind ≠ .stationObservation ∨
          metadata.times.StepFits d.timestep) := by
  apply And.intro
  · intro i hmake
    obtain ⟨_, _, rfl⟩ := TimeInterval.make_eq_ok.1 hmake
    exact ⟨TimeInterval.stepSeconds_ne_none_iff, TimeInterval.contains_ne_none_iff,
      TimeInterval.lastBy_ne_none_iff⟩
  · intro l hbuild
    exact ⟨acceptsTime_ne_none_iff hbuild, lastTime?_ne_none_iff hbuild⟩

end Layer

namespace IceCharts

def everyMinutes (minutes : Int) : Definition := { definition with timestep := some minutes }

theorem build_everyMinutes (i : TimeInterval) (minutes : Int) (hpos : 0 < minutes) :
    Layer.build Reference.defaults source (everyMinutes minutes) .vectorStore
        (metadata i) noon =
      .ok (.assemble Reference.defaults source (everyMinutes minutes) .vectorStore (metadata i)
        noon (some (.single (.ofInterval { i with minutes, step_pos := hpos })))) :=
  build_charts (TimeInterval.make_eq_ok.2 ⟨rfl, rfl, rfl⟩)

end IceCharts

open IceCharts in
/-- Charts of every 90 minutes in place of every hour. -/
theorem Layer.answers_everyNinetyMinutes :
    TimeInterval.make threeHours.start threeHours.stop threeHours.minutes = .ok threeHours ∧
      (∀ limit t, threeHours.contains limit t ≠ none) ∧ (∀ l, threeHours.lastBy l ≠ none) ∧
      ∃ l, build Reference.defaults source (everyMinutes 90) .vectorStore (metadata threeHours)
          noon = .ok l ∧
        (∀ present reference t, l.acceptsTime present reference t ≠ none) ∧
        ∀ present reference, l.lastTime? present reference ≠ none := by
  have hmake : TimeInterval.make threeHours.start threeHours.stop threeHours.minutes =
      .ok threeHours := TimeInterval.make_eq_ok.2 ⟨rfl, rfl, rfl⟩
  have hbuild := build_everyMinutes threeHours 90 (by decide)
  have hstep : (metadata threeHours).times.StepFits (everyMinutes 90).timestep := by
    change (90 : Int) * 60 ≤ maxInt64
    decide
  obtain ⟨hinterval, hlayer⟩ := answers_iff threeHours.start threeHours.stop threeHours.minutes
    Reference.defaults source (everyMinutes 90) .vectorStore (metadata threeHours) noon
  obtain ⟨_, hcontains, hlastBy⟩ := hinterval _ hmake
  obtain ⟨haccepts, hlast⟩ := hlayer _ hbuild
  exact ⟨hmake, hcontains.2 (by decide), hlastBy.2 (by decide), _, hbuild,
    haccepts.2 (.inr hstep), hlast.2 (.inr (.inr hstep))⟩

open IceCharts in
/-- Nobody learns whether there is a chart at midnight if the charts are 2 ^ 62 minutes apart,
or 44 seconds later if they are 307445734561825861 minutes apart. -/
theorem Layer.unanswered_hugeSteps :
    (∃ l, build Reference.defaults source (everyMinutes (2 ^ 62)) .vectorStore
        (metadata threeHours) noon = .ok l ∧
      l.acceptsTime noon none (ofFirstDay 0 0) = none) ∧
    ∃ l, build Reference.defaults source (everyMinutes 307445734561825861) .vectorStore
        (metadata threeHours) noon = .ok l ∧
      l.acceptsTime noon none (ofFirstDay 44 0) = none :=
  ⟨⟨_, build_everyMinutes threeHours _ (by decide), rfl⟩,
    _, build_everyMinutes threeHours _ (by decide), rfl⟩

end LayerAtlas
