import LayerAtlas.Proofs.AcceptedRequests

namespace LayerAtlas

open Instant Request Checks

/-- The first instant is not after the second, nothing being before all instants. -/
def Instant.NotAfter (o o' : Option Instant) : Prop :=
  ∀ t, o = some t → ∃ t', o' = some t' ∧ t ≤ t'

theorem Instant.NotAfter.refl (o : Option Instant) : NotAfter o o :=
  fun t ht => ⟨t, ht, le_refl t⟩

theorem Instant.IsLatest.notAfter {s s' : Set Instant} {o o' : Option Instant}
    (h : IsLatest s o) (h' : IsLatest s' o') (hsub : s ⊆ s') : NotAfter o o' := by
  rintro t rfl
  cases o' with
  | none => exact absurd (hsub h.1) (Set.eq_empty_iff_forall_notMem.1 h' t)
  | some t' => exact ⟨t', rfl, h'.2 (hsub h.1)⟩

theorem TimeInterval.contains_of_le {i : TimeInterval} {limit t : Instant} (h : t ≤ limit) :
    i.contains (some limit) t = i.contains none t := by
  have hstop : t ≤ i.stopBy (some limit) ↔ t ≤ i.stopBy none := by
    rw [le_stopBy_iff, le_stopBy_iff]
    exact and_congr_right fun _ => ⟨by rintro _ l ⟨⟩, by rintro _ l ⟨⟩; exact h⟩
  simp only [contains_eq, hstop]

namespace TimeDimension

variable {d : TimeDimension} {limit limit' t : Instant} {o o' : Option Instant}

theorem contains_of_le (h : t ≤ limit) : d.contains (some limit) t = d.contains none t := by
  cases d with
  | steps s => exact contains_steps_decides.unique (contains_steps_decides.congr (by simp [h]))
  | intervals is => simp only [contains_intervals, TimeInterval.contains_of_le h]

theorem le_of_contains (h : d.contains (some limit) t = some true) : t ≤ limit := by
  by_contra hlimit
  simp [contains, hlimit] at h

theorem contains_later (hlater : limit ≤ limit') (h : d.contains (some limit) t = some true) :
    d.contains (some limit') t = some true := by
  have hle := le_of_contains h
  rw [contains_of_le (le_trans hle hlater), ← contains_of_le hle]
  exact h

theorem last?_later (hleap : ∀ t ∈ d.instants, ¬ t.IsLeap) (hlimit : ¬ limit.IsLeap)
    (hlimit' : ¬ limit'.IsLeap) (hlater : limit ≤ limit') (h : d.last? (some limit) = some o)
    (h' : d.last? (some limit') = some o') : NotAfter o o' := by
  have hlatest : ∀ {m : Instant} {o : Option Instant}, ¬ m.IsLeap → d.last? (some m) = some o →
      IsLatest {t | ¬ t.IsLeap ∧ d.contains (some m) t = some true} o := by
    intro m o hm ho
    refine isLatest_last? hleap ?_ nofun ho
    rintro _ ⟨⟩
    exact hm
  apply (hlatest hlimit h).notAfter (hlatest hlimit' h')
  rintro t ⟨ht, hcontains⟩
  exact ⟨ht, contains_later hlater hcontains⟩

end TimeDimension

namespace Layer

variable {l : Layer} {present present' t : Instant} {reference o o' : Option Instant}

theorem acceptsTime_later (hlater : present ≤ present')
    (h : l.acceptsTime present reference t = some true) :
    l.acceptsTime present' reference t = some true := by
  cases haxis : l.timeAxis? with
  | none => simp only [acceptsTime, haxis]
  | some a =>
    cases hselect : a.select reference with
    | none => simp [acceptsTime, haxis, TimeAxis.contains, hselect] at h
    | some d =>
      rw [acceptsTime_of_select haxis hselect, TimeAxis.limit] at h ⊢
      -- only an axis that ends at the present moves with it
      split at h
      · rename_i hends
        rw [if_pos hends]
        exact TimeDimension.contains_later hlater h
      · rename_i hends
        rw [if_neg hends]
        exact h

theorem lastTime?_later (hleap : l.LeapFree) (hpresent : ¬ present.IsLeap)
    (hpresent' : ¬ present'.IsLeap) (hlater : present ≤ present')
    (h : l.lastTime? present reference = some o)
    (h' : l.lastTime? present' reference = some o') :
    NotAfter o o' := by
  cases haxis : l.timeAxis? with
  | none =>
    simp only [lastTime?, haxis, Option.some.injEq] at h
    rw [← h]
    rintro t ⟨⟩
  | some a =>
    cases hselect : a.select reference with
    | none =>
      simp only [lastTime?, haxis, TimeAxis.last?, hselect, Option.some.injEq] at h
      rw [← h]
      rintro t ⟨⟩
    | some d =>
      have hd : d ∈ a.dimensions := TimeAxis.mem_dimensions_of_select hselect
      rw [lastTime?_of_select haxis hselect, TimeAxis.limit] at h h'
      split at h
      · rename_i hends
        rw [if_pos hends] at h'
        exact TimeDimension.last?_later (hleap a haxis d hd) hpresent hpresent' hlater h h'
      · rename_i hends
        rw [if_neg hends] at h'
        cases h.symm.trans h'
        exact .refl _

theorem Offers.later {q : MapQuery} {style : String} (h : l.Offers present q style)
    (hlater : present ≤ present') : l.Offers present' q style :=
  { h with times := fun t ht => acceptsTime_later hlater (h.times t ht) }

end Layer

namespace MapQuery

variable {s : Settings} {g : Generation} {present present' : Instant} {q : MapQuery}
  {r : MapRequest}

theorem Servable.later (h : q.Servable s g present) (hlater : present ≤ present') :
    q.Servable s g present' := by
  refine ⟨h.version, h.format, h.bbox, ?_⟩
  intro pair hpair
  obtain ⟨l, hl, hoffers⟩ := h.layers pair hpair
  exact ⟨l, hl, hoffers.later hlater⟩

theorem Answer.of_times (h : q.Answer g present r) (htimes : q.times ≠ []) :
    q.Answer g present' r := by
  refine { h with layers := h.layers.imp ?_ }
  rintro pair drawn ⟨l, hl, hdrawn⟩
  refine ⟨l, hl, ?_⟩
  rw [MapQuery.drawn, current?, if_neg htimes] at hdrawn ⊢
  exact hdrawn

theorem drawn_later {style : String} {l : Layer} {drawn drawn' : MapLayer}
    (htimes : q.times = []) (hlater : present ≤ present')
    (h : q.drawn present style l = some drawn)
    (h' : q.drawn present' style l = some drawn') :
    { drawn' with current := drawn.current } = drawn ∧
      (drawn.layer.LeapFree → ¬ present.IsLeap → ¬ present'.IsLeap →
        NotAfter drawn.current drawn'.current) := by
  obtain ⟨rfl, hstyle, hcurrent⟩ := drawn_eq_some_iff.1 h
  obtain ⟨hlayer, hstyle', hcurrent'⟩ := drawn_eq_some_iff.1 h'
  constructor
  · obtain ⟨layer, style, current⟩ := drawn
    obtain ⟨layer', style', current'⟩ := drawn'
    cases hlayer
    cases hstyle.trans hstyle'.symm
    rfl
  · intro hleap hpresent hpresent'
    rw [current?, if_pos htimes] at hcurrent hcurrent'
    exact Layer.lastTime?_later hleap hpresent hpresent' hlater hcurrent hcurrent'

theorem Answer.tells_iff (h : q.Answer g present r) (htimes : q.times = []) :
    q.Tells g present' ↔
      ∀ drawn ∈ r.layers, ¬ drawn.layer.StopsAtCurrent present' r.reference := by
  rw [h.reference, Tells, imp_iff_right htimes]
  apply Iff.intro
  · intro htells drawn hdrawn
    obtain ⟨pair, hpair, l, hl, hl'⟩ := forall₂_exists h.layers.flip hdrawn
    rw [(drawn_eq_some_iff.1 hl').1]
    exact htells pair hpair l hl
  · intro hall pair hpair l hl
    obtain ⟨drawn, hdrawn, l', hl', hdrawn'⟩ := forall₂_exists h.layers hpair
    cases hl.symm.trans hl'
    rw [← (drawn_eq_some_iff.1 hdrawn').1]
    exact hall drawn hdrawn

end MapQuery

/-- A request that is accepted with times gets the same answer at every later present. One that
is accepted without times gets the same layers, and no current time that is earlier, provided
that neither the times of its layer nor the presents lie in leap seconds, unless the program
stops over a current time: that of a period which has begun by then, and whose step has too many
seconds. -/
theorem MapRequest.validate_later {s : Settings} {g : Generation}
    {now present present' : Instant} {p : Parameters MapParameter} {r : MapRequest}
    (hlater : present ≤ present') (h : validate s g now present p = .ok r) :
    (r.times ≠ [] → validate s g now present' p = .ok r) ∧
    (p .time = none → r.times = []) ∧
    (r.times = [] →
      ((∃ drawn ∈ r.layers, drawn.layer.StopsAtCurrent present' r.reference) ∧
        validate s g now present' p = .error .stopped) ∨
      (∀ drawn ∈ r.layers, ¬ drawn.layer.StopsAtCurrent present' r.reference) ∧
        ∃ r', validate s g now present' p = .ok r' ∧ { r' with layers := r.layers } = r ∧
          List.Forall₂ (fun drawn drawn' => { drawn' with current := drawn.current } = drawn ∧
            (drawn.layer.LeapFree → ¬ present.IsLeap → ¬ present'.IsLeap →
              NotAfter drawn.current drawn'.current)) r.layers r'.layers) := by
  obtain ⟨q, hreads, hservable, hanswer⟩ := exists_query h
  have hservable' := hservable.later hlater
  refine ⟨?_, ?_, ?_⟩
  · intro htimes
    rw [hanswer.times] at htimes
    exact validate_of_answer hreads hservable' (hanswer.of_times htimes)
  · intro hnone
    have htimes := hreads.times
    rw [hnone] at htimes
    exact hanswer.times.trans htimes
  · intro htimes
    rw [hanswer.times] at htimes
    have htells : q.Tells g present' ↔
        ∀ drawn ∈ r.layers, ¬ drawn.layer.StopsAtCurrent present' r.reference :=
      hanswer.tells_iff htimes
    by_cases hstops : q.Tells g present'
    · obtain ⟨r', hr'⟩ := hservable'.ofQuery hstops
      have hanswer' := (MapQuery.servable_of_ofQuery hr').2
      refine .inr ⟨htells.1 hstops, r', validate_eq_ok.2 ⟨q, hreads, hr'⟩, ?_, ?_⟩
      · have hsame : q.Answer g present { r' with layers := r.layers } :=
          { hanswer' with layers := hanswer.layers }
        exact hsame.unique hanswer
      · refine forall₂_join hanswer.layers hanswer'.layers ?_
        rintro pair drawn drawn' ⟨l, hl, hdrawn⟩ ⟨l', hl', hdrawn'⟩
        cases hl.symm.trans hl'
        exact MapQuery.drawn_later htimes hlater hdrawn hdrawn'
    · rw [htells] at hstops
      simp only [not_forall, not_not] at hstops
      obtain ⟨drawn, hdrawn, hstopped⟩ := hstops
      refine .inl ⟨⟨drawn, hdrawn, hstopped⟩, validate_eq_stopped hreads hservable' ?_⟩
      exact fun htold => htells.1 htold drawn hdrawn hstopped

namespace RoadStations

theorem leapFree {s : Steps} (hs : ∀ t ∈ s.times, ¬ t.IsLeap) : (layer s).LeapFree := by
  rintro _ ⟨⟩ d hd
  rw [List.mem_singleton.1 hd]
  exact hs

theorem leapFree_periodLayer {i : TimeInterval} (hstart : ¬ i.start.IsLeap)
    (hstop : ¬ i.stop.IsLeap) : (periodLayer i).LeapFree := by
  rintro _ ⟨⟩ d hd
  rw [List.mem_singleton.1 hd]
  exact List.forall_mem_cons.2 ⟨hstart, List.forall_mem_singleton.2 hstop⟩

end RoadStations

open RoadStations in
/-- The stations are drawn at midnight, before the period begins, but not at noon. -/
theorem MapRequest.validate_later_hugeSteps :
    ∃ g r, Generation.Reachable settings g ∧ (∀ l ∈ g.layers, l.LeapFree) ∧
      midnight ≤ IceCharts.noon ∧ parameters .time = none ∧
      validate settings g IceCharts.noon midnight parameters = .ok r ∧
      ¬ ∃ r', validate settings g IceCharts.noon IceCharts.noon parameters = .ok r' := by
  have hlayers := layers_periodGeneration hugeSteps
  have hcurrent : (periodLayer hugeSteps).lastTime? midnight none = some none := by decide
  obtain ⟨r, hr, _⟩ :=
    validate_of_layers_eq hlayers rfl (acceptsCrs_periodLayer hugeSteps) hcurrent
  obtain ⟨_, _, _, hstopped⟩ :=
    validate_periodGeneration_stopped (i := hugeSteps) (by decide) (le_refl IceCharts.noon)
  refine ⟨_, r, reachable_periodGeneration hugeSteps, ?_, by decide, rfl, hr, ?_⟩
  · intro l hl
    rw [hlayers, List.mem_singleton] at hl
    rw [hl]
    exact leapFree_periodLayer (by decide) (by decide)
  · rintro ⟨r', hr'⟩
    cases hstopped.symm.trans hr'

open RoadStations in
/-- Stations that report at midnight and at noon are drawn at midnight first, and at noon
later. -/
theorem MapRequest.validate_later_twiceADay :
    ∃ g r r', Generation.Reachable settings g ∧ midnight ≤ IceCharts.noon ∧
      validate settings g IceCharts.noon midnight parameters = .ok r ∧ r.times = [] ∧
      r.layers = [{ layer := layer twiceADay, style := "default", current := some midnight }] ∧
      validate settings g IceCharts.noon IceCharts.noon parameters = .ok r' ∧
      r'.layers =
        [{ layer := layer twiceADay, style := "default", current := some IceCharts.noon }] ∧
      List.Forall₂ (fun drawn drawn' => NotAfter drawn.current drawn'.current)
        r.layers r'.layers := by
  have hs : Steps.ofList? twiceADay.times = some twiceADay := by decide
  have hlater : midnight ≤ IceCharts.noon := by decide
  have hfirst : (layer twiceADay).lastTime? midnight none = some (some midnight) := by decide
  have hnext :
      (layer twiceADay).lastTime? IceCharts.noon none = some (some IceCharts.noon) := by
    decide
  obtain ⟨r, hr, htimes, _, hlayers⟩ := validate_parameters hs hfirst
  obtain ⟨r', hr', _, _, hlayers'⟩ := validate_parameters hs hnext
  obtain ⟨_, _, hcurrent⟩ := validate_later hlater hr
  obtain ⟨_, hstopped⟩ | ⟨_, later, hvalidate, _, hforall⟩ := hcurrent htimes
  · cases hr'.symm.trans hstopped
  cases hr'.symm.trans hvalidate
  refine ⟨_, r, r', reachable twiceADay, hlater, hr, htimes, hlayers, hr', hlayers', ?_⟩
  rw [hlayers, hlayers'] at hforall ⊢
  obtain ⟨⟨_, hnotAfter⟩, _⟩ := List.forall₂_cons.1 hforall
  exact .cons (hnotAfter (leapFree (by decide)) (by decide) (by decide)) .nil

end LayerAtlas
