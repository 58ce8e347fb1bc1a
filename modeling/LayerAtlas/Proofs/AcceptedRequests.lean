import LayerAtlas.Proofs.AwaitedTimes

namespace LayerAtlas

open Instant Request Checks

/-- A map request is accepted exactly if its parameters ask for a servable query and the current
times that it asks for, if any, can be told; what is accepted is the answer to that query. -/
theorem MapRequest.validate_eq_ok_iff (s : Settings) (g : Generation) (now present : Instant)
    (p : Parameters MapParameter) :
    ((∃ r, validate s g now present p = .ok r) ↔
      ∃ q, MapQuery.Reads now p q ∧ q.Servable s g present ∧ q.Tells g present) ∧
      ∀ r, validate s g now present p = .ok r ↔
        ∃ q, MapQuery.Reads now p q ∧ q.Servable s g present ∧ q.Answer g present r := by
  constructor
  · apply Iff.intro
    · rintro ⟨r, hr⟩
      obtain ⟨q, hreads, hservable, hanswer⟩ := exists_query hr
      exact ⟨q, hreads, hservable, hanswer.tells⟩
    · rintro ⟨q, hreads, hservable, htells⟩
      obtain ⟨r, hr⟩ := hservable.ofQuery htells
      exact ⟨r, validate_eq_ok.2 ⟨q, hreads, hr⟩⟩
  · intro r
    apply Iff.intro
    · exact exists_query
    · rintro ⟨q, hreads, hservable, hanswer⟩
      exact validate_of_answer hreads hservable hanswer

namespace RoadStations

def periodMetadata (i : TimeInterval) : Metadata :=
  { bbox := .world, times := .period i.start i.stop i.minutes, levels := none }

def periodAxis (i : TimeInterval) : TimeAxis :=
  { generations := .single (.ofInterval i), endsAtPresent := true }

def periodLayer (i : TimeInterval) : Layer :=
  .assemble Reference.defaults (.ofDefinition text) definition .stationObservation
    (periodMetadata i) IceCharts.noon (some (periodAxis i))

def periodGeneration (i : TimeInterval) : Generation :=
  ((World.ofDefinition text (periodMetadata i) IceCharts.noon).run settings
    [.refresh]).catalog.current

theorem reachable_periodGeneration (i : TimeInterval) :
    (periodGeneration i).Reachable settings :=
  World.reachable_ofDefinition settings text (periodMetadata i) IceCharts.noon [.refresh]

theorem layers_periodGeneration (i : TimeInterval) :
    (periodGeneration i).layers = [periodLayer i] := by
  have hmake : TimeInterval.make i.start i.stop i.minutes = .ok i :=
    TimeInterval.make_eq_ok.2 ⟨rfl, rfl, rfl⟩
  have haxis : Layer.axisOf .stationObservation definition (periodMetadata i).times =
      .ok (some (periodAxis i)) := by
    change Except.map _ (Except.map _ (TimeInterval.make i.start i.stop i.minutes)) = _
    rw [hmake]
    rfl
  have hbbox : (periodMetadata i).bbox.isValid = true := by
    change BoundingBox.world.isValid = true
    decide
  exact layers_of_axis hbbox haxis

theorem acceptsCrs_periodLayer (i : TimeInterval) :
    (periodLayer i).acceptsCrs "EPSG:4326" = true := by
  change (Layer.crsOf Reference.defaults definition).contains "EPSG:4326" = true
  decide +kernel

theorem validate_periodGeneration_stopped {i : TimeInterval} (hfits : ¬ i.StepFits)
    {present : Instant} (hbegun : i.start ≤ present) :
    ∃ q, MapQuery.Reads IceCharts.noon parameters q ∧
      q.Servable settings (periodGeneration i) present ∧
      MapRequest.validate settings (periodGeneration i) IceCharts.noon present parameters =
        .error .stopped := by
  have hlayers := layers_periodGeneration i
  have hasks : ∃ q, MapQuery.Reads IceCharts.noon parameters q ∧
      q.Servable settings (periodGeneration i) present ∧ q.layers = [("road", "")] ∧
      q.times = [] ∧ q.reference = none :=
    servable_of_layers_eq hlayers rfl (acceptsCrs_periodLayer i)
  obtain ⟨q, hreads, hservable, hpairs, htimes, hreference⟩ := hasks
  refine ⟨q, hreads, hservable, MapRequest.validate_eq_stopped hreads hservable ?_⟩
  intro htells
  have hroad : ("road", "") ∈ q.layers := hpairs ▸ List.mem_singleton_self _
  refine htells htimes _ hroad _ (Generation.find?_of_layers_eq hlayers) ?_
  rw [hreference]
  exact ⟨periodAxis i, _, rfl, rfl, rfl, fun hby =>
    hfits (hby i (List.mem_singleton_self i) (decide_eq_true hbegun))⟩

def hugeSteps : TimeInterval where
  start := ofFirstDay 43200 0
  stop := ofFirstDay 82800 0
  minutes := 2 ^ 62
  ordered := by decide
  step_pos := by decide

end RoadStations

open RoadStations in
/-- A request that can be served is not answered from noon on. -/
theorem MapRequest.validate_stopped_hugeSteps :
    ∃ g q, Generation.Reachable settings g ∧ MapQuery.Reads IceCharts.noon parameters q ∧
      q.Servable settings g IceCharts.noon ∧
      ¬ ∃ r, validate settings g IceCharts.noon IceCharts.noon parameters = .ok r := by
  obtain ⟨q, hreads, hservable, hstopped⟩ :=
    validate_periodGeneration_stopped (i := hugeSteps) (by decide) (le_refl IceCharts.noon)
  refine ⟨_, q, reachable_periodGeneration hugeSteps, hreads, hservable, ?_⟩
  rintro ⟨r, hr⟩
  cases hstopped.symm.trans hr

end LayerAtlas
