import LayerAtlas.Proofs.AdvertisedTimes

namespace LayerAtlas

open Instant Request Checks

theorem TimeDimension.last?_none_ne_some_none (d : TimeDimension) :
    d.last? none ≠ some none := by
  cases d with
  | steps s => exact mt Option.some.inj (List.getLast?_eq_none_iff.not.2 s.nonempty)
  | intervals is =>
    exact mt Option.some.inj (latest?_eq_none_iff.not.2 (List.map_eq_nil_iff.not.2 is.nonempty))

theorem TimeAxis.exists_select {a : TimeAxis} {reference : Option Instant}
    (h : ∀ r ∈ reference, a.hasReference r = true) : ∃ d, a.select reference = some d := by
  cases reference with
  | none => exact ⟨a.latest, rfl⟩
  | some r =>
    have hmem : r ∈ a.references := List.elem_iff.1 (h r rfl)
    rw [← Option.isSome_iff_exists]
    obtain ⟨generations, endsAtPresent⟩ := a
    cases generations with
    | single d => cases hmem
    | runs items ascending nonempty =>
      obtain ⟨item, hitem, hr⟩ := List.mem_map.1 hmem
      rw [select, Option.isSome_map, List.find?_isSome]
      exact ⟨item, hitem, decide_eq_true hr⟩

namespace Layer

variable {l : Layer} {present : Instant} {reference : Option Instant}

/-- The layer is one of observations, none of which has been made. -/
def AwaitsTimes (l : Layer) (present : Instant) (reference : Option Instant) : Prop :=
  l.kind = .stationObservation ∧ ∀ t, l.acceptsTime present reference t = some false

theorem lastTime?_eq_some_none_iff (hl : l.WellFormed) (htemporal : l.isTemporal = true)
    (hreference : ∀ r ∈ reference, l.acceptsReference r = true) (hpresent : present ≤ maximum) :
    l.lastTime? present reference = some none ↔ l.AwaitsTimes present reference := by
  obtain ⟨a, haxis⟩ := Option.isSome_iff_exists.1 htemporal
  have hends : a.endsAtPresent = true ↔ l.kind = .stationObservation :=
    hl.endsAtPresent a (Option.ite_none_left_eq_some.1 haxis).2
  have hruns : ∀ r ∈ reference, a.hasReference r = true := by
    intro r hr
    have haccepts := hreference r hr
    rw [acceptsReference, haxis] at haccepts
    exact haccepts
  obtain ⟨d, hselect⟩ := TimeAxis.exists_select hruns
  simp only [lastTime?_of_select haxis hselect, AwaitsTimes,
    acceptsTime_of_select haxis hselect, ← hends, TimeAxis.limit]
  by_cases hpassed : a.endsAtPresent = true
  · rw [if_pos hpassed, and_iff_right hpassed]
    exact TimeDimension.last?_eq_some_none_iff hpresent
  · rw [if_neg hpassed]
    exact iff_of_false d.last?_none_ne_some_none (fun h => hpassed h.1)

end Layer

/-- Where no times are asked for, a layer with times is drawn without a current time exactly if
it awaits its times, although every such layer says that it has a current time. What the layer
is asked for is its last time, over which the program stops where that cannot be told. -/
theorem MapRequest.current_eq_none_iff {s : Settings} {g : Generation} (hg : g.Reachable s)
    {present : Instant} (hpresent : present ≤ maximum) :
    (∀ l ∈ g.layers, l.isTemporal = true → ∀ reference : Option Instant,
      (∀ r ∈ reference, l.acceptsReference r = true) →
        l.hasCurrent = true ∧
        (∀ o, l.currentTime present reference = .ok o ↔
          l.lastTime? present reference = some o) ∧
        (l.currentTime present reference = .error .stopped ↔
          l.StopsAtCurrent present reference) ∧
        (∀ e, l.currentTime present reference ≠ .error (.refused e)) ∧
        (l.lastTime? present reference = some none ↔ l.AwaitsTimes present reference)) ∧
      ∀ now p r, validate s g now present p = .ok r → r.times = [] → ∀ drawn ∈ r.layers,
        drawn.layer.isTemporal = true →
          (drawn.current = none ↔ drawn.layer.AwaitsTimes present r.reference) := by
  have hlast : ∀ l ∈ g.layers, l.isTemporal = true → ∀ reference : Option Instant,
      (∀ r ∈ reference, l.acceptsReference r = true) →
        (l.lastTime? present reference = some none ↔ l.AwaitsTimes present reference) := by
    intro l hl htemporal reference hreference
    have hwellFormed : l.WellFormed :=
      hg.forall_layers (fun _ _ _ _ hcreate => Layer.create_wellFormed hcreate) l hl
    exact Layer.lastTime?_eq_some_none_iff hwellFormed htemporal hreference hpresent
  constructor
  · intro l hl htemporal reference hreference
    rw [l.currentTime_eq_answered]
    refine ⟨l.hasCurrent_eq_true, fun o => answered_eq_ok, ?_, fun e => answered_ne_refused,
      hlast l hl htemporal reference hreference⟩
    rw [answered_eq_stopped_iff, Layer.lastTime?_eq_none_iff]
  · intro now p r hr htimes drawn hdrawn htemporal
    obtain ⟨q, _, hservable, hanswer⟩ := exists_query hr
    obtain ⟨pair, hpair, l, hl, hdrawn⟩ := forall₂_exists hanswer.layers.flip hdrawn
    obtain ⟨rfl, _, hcurrent⟩ := MapQuery.drawn_eq_some_iff.1 hdrawn
    obtain ⟨m, hm, hoffers⟩ := hservable.layers pair hpair
    cases hl.symm.trans hm
    rw [MapQuery.current?, if_pos (hanswer.times.symm.trans htimes)] at hcurrent
    rw [hanswer.reference, ← hlast _ (Generation.find?_eq_some_iff.1 hl).1 htemporal q.reference
      hoffers.reference, hcurrent, Option.some.injEq]

namespace IceCharts

def parametersOf (name : String) : Parameters MapParameter
  | .layers => some name
  | parameter => parameters parameter

section Current

variable {settings : Settings} {g : Generation} {l : Layer} {name : String} {present : Instant}
  {current : Option Instant}

theorem servable_current (hfind : g.find? name = some l)
    (hname : Paired (splitList name) (splitList "") [(name, "")])
    (hversion : settings.supportsVersion "1.3.0" = true)
    (hformat : settings.supportsFormat "image/png" = true)
    (hcrs : l.acceptsCrs "EPSG:4326" = true) :
    ∃ q, MapQuery.Reads noon (parametersOf name) q ∧ q.Servable settings g present ∧
      q.layers = [(name, "")] ∧ q.times = [] ∧ q.reference = none := by
  obtain ⟨q, hread, hq, htimes⟩ := read_parameters
  have hreads : MapQuery.Reads noon (parametersOf name) { q with layers := [(name, "")] } :=
    { MapQuery.read_eq_ok.1 hread with layers := hname }
  rw [← hq.version] at hversion
  rw [← hq.format] at hformat
  have haccepts : ∀ t ∈ q.times, l.acceptsTime present none t = some true := by
    rw [htimes]
    rintro t ⟨⟩
  have hoffers : l.Offers present { q with layers := [(name, "")] } "" :=
    { hq.offers_of hcrs haccepts with }
  exact ⟨_, hreads, Generation.servable_of_find? hfind rfl hversion hformat hq.bbox hoffers,
    rfl, htimes, hq.reference⟩

theorem validate_current (hfind : g.find? name = some l)
    (hname : Paired (splitList name) (splitList "") [(name, "")])
    (hversion : settings.supportsVersion "1.3.0" = true)
    (hformat : settings.supportsFormat "image/png" = true)
    (hcrs : l.acceptsCrs "EPSG:4326" = true)
    (hcurrent : l.lastTime? present none = some current) :
    ∃ r, MapRequest.validate settings g noon present (parametersOf name) = .ok r ∧
      r.times = [] ∧
      r.reference = none ∧ r.layers = [{ layer := l, style := "default", current }] := by
  obtain ⟨q, hreads, hservable, hlayers, htimes, hreference⟩ :=
    servable_current hfind hname hversion hformat hcrs
  have hdrawn : q.drawn present "" l = some { layer := l, style := "default", current } := by
    refine MapQuery.drawn_eq_some_iff.2 ⟨rfl, rfl, ?_⟩
    rw [MapQuery.current?, if_pos htimes, hreference]
    exact hcurrent
  rw [← htimes, ← hreference]
  exact Generation.validate_of_servable hfind hreads hservable hlayers hdrawn

end Current

end IceCharts

namespace RoadStations

def parameters : Parameters MapParameter
  | .layers => some "road"
  | parameter => IceCharts.parameters parameter

def onceADay : Steps where
  times := [ofFirstDay 43200 0]
  ascending := List.pairwise_singleton _ _
  nonempty := List.cons_ne_nil _ _

def midnight : Instant := ofFirstDay 0 0

section Roads

variable {g : Generation} {l : Layer} {present : Instant} {current : Option Instant}

theorem paired_road : Paired (splitList "road") (splitList "") [("road", "")] :=
  ⟨List.cons_ne_nil _ _, by decide, .inl ⟨rfl, rfl⟩⟩

theorem servable_of_layers_eq (hlayers : g.layers = [l]) (hname : l.name = "road")
    (hcrs : l.acceptsCrs "EPSG:4326" = true) :
    ∃ q, MapQuery.Reads IceCharts.noon parameters q ∧ q.Servable settings g present ∧
      q.layers = [("road", "")] ∧ q.times = [] ∧ q.reference = none :=
  IceCharts.servable_current (hname ▸ Generation.find?_of_layers_eq hlayers) paired_road
    (by decide) (by decide +kernel) hcrs

theorem validate_of_layers_eq (hlayers : g.layers = [l]) (hname : l.name = "road")
    (hcrs : l.acceptsCrs "EPSG:4326" = true)
    (hcurrent : l.lastTime? present none = some current) :
    ∃ r, MapRequest.validate settings g IceCharts.noon present parameters = .ok r ∧
      r.times = [] ∧
      r.reference = none ∧ r.layers = [{ layer := l, style := "default", current }] :=
  IceCharts.validate_current (hname ▸ Generation.find?_of_layers_eq hlayers) paired_road
    (by decide) (by decide +kernel) hcrs hcurrent

end Roads

theorem acceptsCrs_layer (s : Steps) : (layer s).acceptsCrs "EPSG:4326" = true := by
  change (Layer.crsOf Reference.defaults definition).contains "EPSG:4326" = true
  decide +kernel

theorem validate_parameters {s : Steps} (hs : Steps.ofList? s.times = some s)
    {present : Instant} {current : Option Instant}
    (hcurrent : (layer s).lastTime? present none = some current) :
    ∃ r, MapRequest.validate settings (generation s) IceCharts.noon present parameters = .ok r ∧
      r.times = [] ∧ r.reference = none ∧
      r.layers = [{ layer := layer s, style := "default", current }] :=
  validate_of_layers_eq (layers_generation hs) rfl (acceptsCrs_layer s) hcurrent

end RoadStations

open RoadStations in
/-- At midnight the stations that report at noon are drawn without a current time, though they
are said to have one. -/
theorem MapRequest.current_missing_beforeNoon :
    ∃ g r drawn, Generation.Reachable settings g ∧
      validate settings g IceCharts.noon midnight parameters = .ok r ∧
      r.times = [] ∧ drawn ∈ r.layers ∧ drawn.layer.isTemporal = true ∧
      drawn.layer.hasCurrent = true ∧
      drawn.current = none := by
  have hcurrent : (layer onceADay).lastTime? midnight none = some none := by decide
  obtain ⟨r, hr, htimes, _, hlayers⟩ := validate_parameters (by decide) hcurrent
  have hdrawn : MapLayer.mk (layer onceADay) "default" none ∈ r.layers :=
    hlayers ▸ List.mem_singleton_self _
  exact ⟨_, r, _, reachable onceADay, hr, htimes, hdrawn, rfl, rfl, rfl⟩

open RoadStations in
/-- Stations that report at midnight have a current time at midnight. -/
theorem MapRequest.current_ne_none_twiceADay :
    ∃ g r drawn, Generation.Reachable settings g ∧ midnight ≤ maximum ∧
      validate settings g IceCharts.noon midnight parameters = .ok r ∧ r.times = [] ∧
      drawn ∈ r.layers ∧
      drawn.layer.isTemporal = true ∧ drawn.layer.kind = .stationObservation ∧
      drawn.current ≠ none := by
  have hlast : (layer twiceADay).lastTime? midnight none = some (some midnight) := by decide
  obtain ⟨r, hr, htimes, hreference, hlayers⟩ := validate_parameters (by decide) hlast
  have hdrawn : MapLayer.mk (layer twiceADay) "default" (some midnight) ∈ r.layers :=
    hlayers ▸ List.mem_singleton_self _
  have hmaximum : midnight ≤ maximum := by decide
  obtain ⟨_, hcurrent⟩ := current_eq_none_iff (reachable twiceADay) hmaximum
  have hreported : (layer twiceADay).acceptsTime midnight r.reference midnight = some true := by
    rw [hreference]
    rfl
  refine ⟨_, r, _, reachable twiceADay, hmaximum, hr, htimes, hdrawn, rfl, rfl, ?_⟩
  intro hnone
  obtain ⟨_, hawaited⟩ := (hcurrent _ _ r hr htimes _ hdrawn rfl).1 hnone
  cases (hawaited midnight).symm.trans hreported

end LayerAtlas
