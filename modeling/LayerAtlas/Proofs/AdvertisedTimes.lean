import LayerAtlas.Proofs.CurrentTimes
import LayerAtlas.Proofs.Extents

namespace LayerAtlas

open Instant Text

namespace TimeInterval

variable {i : TimeInterval} {ts : List Instant} {now t : Instant} {limit : Option Instant}
  {room : Nat}

theorem stepFits_of_expandWithin (h : i.writtenSpec.expandWithin now room = .ok ts) :
    i.StepFits := by
  obtain ⟨_, ⟨hnone, _⟩ | ⟨_, hstep, _⟩⟩ := TimeSpec.expandWithin_interval_eq_ok h
  · exact absurd hnone (Int.not_le.2 i.step_pos)
  · exact stepFits_of_le_maxStep hstep

theorem contains_of_expandWithin (hstart : i.start.nanos = 0)
    (h : i.writtenSpec.expandWithin now room = .ok ts) (ht : t ∈ ts)
    (hlimit : ∀ l, limit = some l → t ≤ l) : i.contains limit t = some true := by
  have hleap : ¬ i.start.IsLeap := by
    rw [IsLeap, hstart]
    decide
  obtain ⟨_, ⟨hnone, _⟩ | ⟨_, _, hseries⟩⟩ := TimeSpec.expandWithin_interval_eq_ok h
  · exact absurd hnone (Int.not_le.2 i.step_pos)
  rw [truncate_of_nanos hstart] at hseries
  change TimeSpec.progression (i.minutes * 60) i.stop.truncate room i.start = some ts at hseries
  obtain ⟨hreaches, hle⟩ :=
    ((TimeSpec.walks_of_progression hseries).mem_iff i.step_pos hleap).1 ht
  have htleap : ¬ t.IsLeap := not_isLeap_of_nanos hleap ((reaches_iff hleap).1 hreaches).1
  exact (contains_iff hleap htleap).2
    ⟨stepFits_of_expandWithin h, hreaches, le_trans hle i.stop.truncate_le, hlimit⟩

end TimeInterval

namespace TimeDimension

variable {d : TimeDimension} {specs : List TimeSpec} {ts : List Instant} {now t : Instant}
  {limit : Option Instant}

/-- The instants of the dimension, or those that its intervals start with, lose nothing by being
printed. -/
def PrintsStarts : TimeDimension → Prop
  | steps s => ∀ t ∈ s.times, t.IsWhole
  | intervals is => ∀ i ∈ is.items, i.start.nanos = 0

theorem contains_of_expandAll (hprints : d.PrintsStarts)
    (hread : TimeSpec.readList d.extent = .ok specs)
    (hexpand : TimeSpec.expandAll now specs = .ok ts) (ht : t ∈ ts)
    (hlimit : ∀ l, limit = some l → t ≤ l) : d.contains limit t = some true := by
  obtain ⟨tss, rfl, hall⟩ := TimeSpec.expandAllWithin_eq_ok hexpand
  obtain ⟨us, hus, ht⟩ := List.mem_flatten.1 ht
  obtain ⟨spec, hspec, room, hspecExpand⟩ := Checks.forall₂_exists hall.flip hus
  rw [eq_writtenSpecs hread] at hspec hall
  cases d with
  | steps s =>
    obtain ⟨u, hu, rfl⟩ := List.mem_map.1 hspec
    rw [truncate_of_isWhole (hprints u hu), TimeSpec.expands_single] at hspecExpand
    split at hspecExpand
    · cases hspecExpand
      rw [List.mem_singleton.1 ht] at hlimit ⊢
      exact contains_steps_iff.2 ⟨hu, hlimit⟩
    · cases hspecExpand
  | intervals is =>
    -- all intervals are expanded, so that none of them has a step that does not fit
    have hfits : (intervals is).FitsBy limit := by
      intro i hi _
      obtain ⟨_, _, _, hi⟩ := Checks.forall₂_exists hall (List.mem_map_of_mem hi)
      exact TimeInterval.stepFits_of_expandWithin hi
    obtain ⟨i, hi, rfl⟩ := List.mem_map.1 hspec
    have hcontains :=
      TimeInterval.contains_of_expandWithin (hprints i hi) hspecExpand ht hlimit
    exact (contains_intervals_iff hfits).2 ⟨i, hi, hcontains⟩

end TimeDimension

namespace Layer

variable {settings : Settings} {g : Generation} {access : Access}
  {request : CapabilitiesRequest} {l : Layer}
  {extent : String} {specs : List TimeSpec} {ts : List Instant} {now present t : Instant}

theorem mem_of_mem_capabilities (h : l ∈ (Capabilities.ofRequest g access request).layers) :
    l ∈ g.layers := by
  rw [Capabilities.ofRequest] at h
  split at h
  · cases h
  · exact List.mem_of_mem_filter h

/-- The times that are advertised for a layer are accepted, as far as they have passed if they
are observed, where no fraction of a second and no leap second is lost from the instants that
the extent starts with. -/
theorem acceptsTime_of_advertised (hg : g.Reachable settings)
    (hl : l ∈ (Capabilities.ofRequest g access request).layers)
    (hextent : (LayerSummary.ofLayer l).time = some extent)
    (hprints : ∀ a, l.timeAxis? = some a → a.latest.PrintsStarts)
    (hread : TimeSpec.readList extent = .ok specs)
    (hexpand : TimeSpec.expandAll now specs = .ok ts) (ht : t ∈ ts)
    (hpassed : l.kind = .stationObservation → t ≤ present) :
    l.acceptsTime present none t = some true := by
  have hwellFormed : l.WellFormed :=
    hg.forall_layers (fun _ _ _ _ hcreate => create_wellFormed hcreate) l
      (mem_of_mem_capabilities hl)
  obtain ⟨a, haxis, rfl⟩ := Option.map_eq_some_iff.1 hextent
  have htime : l.time = some a := (Option.ite_none_left_eq_some.1 haxis).2
  -- only the times of observations end at the present
  have hlimit : ∀ m, a.limit present = some m → t ≤ m := by
    intro m hm
    obtain ⟨hends, hpresent⟩ := Option.ite_none_right_eq_some.1 hm
    cases hpresent
    exact hpassed ((hwellFormed.endsAtPresent a htime).1 hends)
  rw [acceptsTime_of_select haxis rfl]
  exact TimeDimension.contains_of_expandAll (hprints a haxis) hread hexpand ht hlimit

end Layer

namespace RoadStations

def text : String := "\x7b\"name\":\"road\",\"producer\":\"road\"\x7d"

def settings : Settings := { observationProducers := ["road"] }

def definition : Definition := { name := some "road", producer := some "road" }

def metadata (s : Steps) : Metadata :=
  { bbox := .world, times := .timesteps s.times, levels := none }

def axis (s : Steps) : TimeAxis := { generations := .single (.steps s), endsAtPresent := true }

def layer (s : Steps) : Layer :=
  .assemble Reference.defaults (.ofDefinition text) definition .stationObservation
    (metadata s) IceCharts.noon (some (axis s))

def generation (s : Steps) : Generation :=
  ((World.ofDefinition text (metadata s) IceCharts.noon).run settings
    [.refresh]).catalog.current

theorem reachable (s : Steps) : (generation s).Reachable settings :=
  World.reachable_ofDefinition settings text (metadata s) IceCharts.noon [.refresh]

theorem layers_of_axis {metadata : Metadata} {axis : TimeAxis}
    (hbbox : metadata.bbox.isValid = true)
    (haxis : Layer.axisOf .stationObservation definition metadata.times = .ok (some axis)) :
    ((World.ofDefinition text metadata IceCharts.noon).run settings
      [.refresh]).catalog.current.layers =
      [.assemble Reference.defaults (.ofDefinition text) definition .stationObservation
        metadata IceCharts.noon (some axis)] := by
  have hread : Definition.ofText? text = some definition := by cbv
  exact World.layers_ofDefinition rfl rfl hread rfl
    (Layer.build_eq_ok.2 ⟨hbbox, _, haxis, .inl rfl, rfl⟩)

theorem layers_generation {s : Steps} (hs : Steps.ofList? s.times = some s) :
    (generation s).layers = [layer s] := by
  have haxis :
      Layer.axisOf .stationObservation definition (metadata s).times = .ok (some (axis s)) := by
    change Except.ok (((((Steps.ofList? s.times).map .steps).map TimeAxis.single)).map _) = _
    rw [hs]
    rfl
  have hbbox : (metadata s).bbox.isValid = true := by
    change BoundingBox.world.isValid = true
    decide
  exact layers_of_axis hbbox haxis

def twiceADay : Steps where
  times := [ofFirstDay 0 0, ofFirstDay 43200 0]
  ascending := List.pairwise_pair.2 (by decide)
  nonempty := List.cons_ne_nil _ _

def halfSecondLate : Steps where
  times := [ofFirstDay 0 500000000]
  ascending := List.pairwise_singleton _ _
  nonempty := List.cons_ne_nil _ _

end RoadStations

namespace IceCharts

def halfSecondLate : TimeInterval :=
  { TimeInterval.hourly 10800 with start := ofFirstDay 0 500000000, ordered := by decide }

/-- Every hour of a night, from a leap second at the end of the first day of 1970. -/
def fromLeapSecond : TimeInterval :=
  { TimeInterval.hourly 0 with
    start := ofParts 86399 1000000000
    stop := ofParts 97200 0
    ordered := by decide }

def beforeOne : Instant := ofParts 89999 0

end IceCharts

/-- The layer is listed with times that can be read and expanded, and refuses one of them. -/
def Layer.RefusesAdvertised (g : Generation) (present : Instant) (l : Layer) : Prop :=
  ∃ access request extent specs ts t, l ∈ (Capabilities.ofRequest g access request).layers ∧
    (LayerSummary.ofLayer l).time = some extent ∧ TimeSpec.readList extent = .ok specs ∧
    TimeSpec.expandAll present specs = .ok ts ∧ t ∈ ts ∧
    l.acceptsTime present none t = some false

theorem Layer.refusesAdvertised_of_layers_eq {g : Generation} {l : Layer} {a : TimeAxis}
    {specs : List TimeSpec} {ts : List Instant} {present t : Instant} (hlayers : g.layers = [l])
    (hshown : l.hidden = false) (haxis : l.timeAxis? = some a)
    (hread : TimeSpec.readList a.extent = .ok specs)
    (hexpand : TimeSpec.expandAll present specs = .ok ts) (ht : t ∈ ts)
    (hrefused : a.contains present none t = some false) : l.RefusesAdvertised g present := by
  have hextent : (LayerSummary.ofLayer l).time = some a.extent := by
    change l.timeAxis?.map TimeAxis.extent = _
    rw [haxis]
    rfl
  have haccepts : l.acceptsTime present none t = some false := by
    simp only [acceptsTime, haxis]
    exact hrefused
  exact ⟨{}, {}, _, specs, ts, t, Capabilities.mem_of_layers_eq hlayers hshown, hextent, hread,
    hexpand, ht, haccepts⟩

theorem RoadStations.refusesAdvertised {s : Steps} {present t : Instant}
    (hs : Steps.ofList? s.times = some s)
    (hexpand : TimeSpec.expandAll present (s.times.map fun t => .single t.truncate) =
      .ok (s.times.map truncate))
    (ht : t ∈ s.times.map truncate)
    (hrefused : (axis s).contains present none t = some false) :
    ∃ g, g.Reachable settings ∧ Layer.RefusesAdvertised g present (layer s) :=
  ⟨_, reachable s, Layer.refusesAdvertised_of_layers_eq (layers_generation hs) rfl rfl
    (TimeSpec.readList_timestamps s.nonempty) hexpand ht hrefused⟩

theorem IceCharts.refusesAdvertised {i : TimeInterval} {ts : List Instant} {t : Instant}
    (hfits : i.minutes ≤ Duration.maxMinutes)
    (hexpand : TimeSpec.expandAll noon [i.writtenSpec] = .ok ts) (ht : t ∈ ts)
    (hrefused : i.contains none t = some false) :
    ∃ g, g.Reachable {} ∧ Layer.RefusesAdvertised g noon (layer i) := by
  have hread : TimeSpec.readList (TimeDimension.ofInterval i).extent = .ok [i.writtenSpec] := by
    change TimeSpec.readList (String.intercalate "," ([i].map TimeInterval.extent)) = _
    rw [TimeInterval.readList_extents (List.cons_ne_nil i []), Checks.mapM_eq_ok]
    refine .cons ?_ .nil
    rw [i.readInterval_extent, if_pos hfits]
  have hoff : (TimeAxis.single (.ofInterval i)).contains noon none t = some false :=
    (TimeDimension.contains_ofInterval i).trans hrefused
  exact ⟨_, reachable i, Layer.refusesAdvertised_of_layers_eq (layers_refresh i) rfl rfl hread
    hexpand ht hoff⟩

/-- Observations are advertised before they are made. Half a second of the instants that are
advertised is lost, whether they are listed or an interval starts with them, and steps from a
leap second into the next day come out a second early. -/
theorem Layer.advertised_times_refused :
    (∃ g, g.Reachable RoadStations.settings ∧
      RefusesAdvertised g (ofFirstDay 0 0) (RoadStations.layer RoadStations.twiceADay)) ∧
    (∃ g, g.Reachable RoadStations.settings ∧
      RefusesAdvertised g IceCharts.noon (RoadStations.layer RoadStations.halfSecondLate)) ∧
    (∃ g, g.Reachable {} ∧
      RefusesAdvertised g IceCharts.noon (IceCharts.layer IceCharts.halfSecondLate)) ∧
    ∃ g, g.Reachable {} ∧
      RefusesAdvertised g IceCharts.noon (IceCharts.layer IceCharts.fromLeapSecond) := by
  refine ⟨?_, ?_, ?_, ?_⟩
  · have ht : ofFirstDay 43200 0 ∈ RoadStations.twiceADay.times.map truncate := by decide
    exact RoadStations.refusesAdvertised (by decide) rfl ht (by decide)
  · have ht : ofFirstDay 0 0 ∈ RoadStations.halfSecondLate.times.map truncate := by decide
    exact RoadStations.refusesAdvertised (by decide) rfl ht (by decide)
  · have hrefused :
        IceCharts.halfSecondLate.contains none (ofFirstDay 0 0) = some false := by decide
    exact IceCharts.refusesAdvertised (by decide) rfl (by decide) hrefused
  · have hrefused :
        IceCharts.fromLeapSecond.contains none IceCharts.beforeOne = some false := by decide
    exact IceCharts.refusesAdvertised (by decide) rfl (by decide) hrefused

/-- What was reported at midnight is advertised and accepted at midnight. -/
theorem Layer.acceptsTime_of_advertised_twiceADay :
    ∃ g l access request extent specs ts, Generation.Reachable RoadStations.settings g ∧
      l ∈ (Capabilities.ofRequest g access request).layers ∧
      (LayerSummary.ofLayer l).time = some extent ∧
      (∀ a, l.timeAxis? = some a → a.latest.PrintsStarts) ∧
      TimeSpec.readList extent = .ok specs ∧
      TimeSpec.expandAll IceCharts.noon specs = .ok ts ∧ ofFirstDay 0 0 ∈ ts ∧
      l.kind = .stationObservation ∧
      l.acceptsTime (ofFirstDay 0 0) none (ofFirstDay 0 0) = some true := by
  have hs :
      Steps.ofList? RoadStations.twiceADay.times = some RoadStations.twiceADay := by decide
  have hlisted := Capabilities.mem_of_layers_eq (RoadStations.layers_generation hs) rfl
  have hextent : (LayerSummary.ofLayer (RoadStations.layer RoadStations.twiceADay)).time =
      some (TimeDimension.steps RoadStations.twiceADay).extent := rfl
  have hprints : ∀ a, (RoadStations.layer RoadStations.twiceADay).timeAxis? = some a →
      a.latest.PrintsStarts := by
    rintro a ⟨⟩
    change ∀ t ∈ RoadStations.twiceADay.times, t.IsWhole
    decide
  have hread := TimeSpec.readList_timestamps RoadStations.twiceADay.nonempty
  have hexpand :
      TimeSpec.expandAll IceCharts.noon
        (RoadStations.twiceADay.times.map fun t => .single t.truncate) =
          .ok (RoadStations.twiceADay.times.map truncate) := rfl
  have ht : ofFirstDay 0 0 ∈ RoadStations.twiceADay.times.map truncate := by decide
  have hreachable := RoadStations.reachable RoadStations.twiceADay
  exact ⟨_, _, _, _, _, _, _, hreachable, hlisted, hextent, hprints, hread, hexpand, ht, rfl,
    acceptsTime_of_advertised hreachable hlisted hextent hprints hread hexpand ht
      fun _ => le_refl _⟩

end LayerAtlas
