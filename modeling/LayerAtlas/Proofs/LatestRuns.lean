import LayerAtlas.Proofs.AwaitedTimes

namespace LayerAtlas

open Instant Request Checks

namespace TimeAxis

/-- The axis has a run of this reference time, and none of a later one. -/
def LatestRun (a : TimeAxis) (r : Instant) : Prop :=
  a.hasReference r = true ∧ ∀ r', a.hasReference r' = true → r' ≤ r

variable {a : TimeAxis} {r : Instant}

theorem LatestRun.select (h : a.LatestRun r) : a.select (some r) = a.select none := by
  obtain ⟨hmem, hgreatest⟩ := h
  obtain ⟨generations, endsAtPresent⟩ := a
  cases generations with
  | single d => cases hmem
  | runs items ascending nonempty =>
    obtain ⟨run, hrun, rfl⟩ := List.mem_map.1 (List.elem_iff.1 hmem)
    have hlast : items.getLast nonempty ∈ items := List.getLast_mem nonempty
    have hle : (items.getLast nonempty).1 ≤ run.1 :=
      hgreatest _ (List.elem_iff.2 (List.mem_map_of_mem hlast))
    have hfind : items.find? (fun item => item.1 = run.1) = some (items.getLast nonempty) := by
      apply (find?_key_eq_some_iff ascending.nodup).2
      exact ⟨hlast, le_antisymm hle (le_getLast ascending nonempty hrun)⟩
    change (items.find? fun item => item.1 = run.1).map Prod.snd =
      some (items.getLast nonempty).2
    rw [hfind]
    rfl

end TimeAxis

namespace Layer

def LatestRun (l : Layer) (r : Instant) : Prop := ∀ a, l.timeAxis? = some a → a.LatestRun r

variable {l : Layer} {r present : Instant}

theorem LatestRun.acceptsReference (h : l.LatestRun r) : l.acceptsReference r = true := by
  rw [Layer.acceptsReference]
  cases haxis : l.timeAxis? with
  | none => rfl
  | some a => exact (h a haxis).1

theorem LatestRun.acceptsTime (h : l.LatestRun r) (t : Instant) :
    l.acceptsTime present (some r) t = l.acceptsTime present none t := by
  cases haxis : l.timeAxis? with
  | none => simp only [Layer.acceptsTime, haxis]
  | some a => simp only [Layer.acceptsTime, haxis, TimeAxis.contains, (h a haxis).select]

theorem LatestRun.lastTime? (h : l.LatestRun r) :
    l.lastTime? present (some r) = l.lastTime? present none := by
  cases haxis : l.timeAxis? with
  | none => simp only [Layer.lastTime?, haxis]
  | some a => simp only [Layer.lastTime?, haxis, TimeAxis.last?, (h a haxis).select]

end Layer

def Parameters.ofRun (p : Parameters MapParameter) (r : Instant) : Parameters MapParameter
  | .referenceTime => some (Timestamp.write r)
  | parameter => p parameter

def MapRequest.ofRun (answer : MapRequest) (r : Instant) : MapRequest :=
  { answer with reference := some r }

namespace MapQuery

variable {s : Settings} {g : Generation} {now present r : Instant} {p : Parameters MapParameter}
  {q : MapQuery}

def ofRun (q : MapQuery) (r : Instant) : MapQuery := { q with reference := some r }

theorem read_ofRun (hnone : p .referenceTime = none) (hwhole : r.IsWhole) :
    MapQuery.read now (p.ofRun r) = (MapQuery.read now p).map fun q => q.ofRun r := by
  have hread : readOptional readInstant (some (Timestamp.write r)) = .ok (some r) := by
    rw [readOptional, readInstant, Timestamp.read_write, truncate_of_isWhole hwhole]
    rfl
  have hunread : readOptional readInstant (p .referenceTime) = .ok none := by
    rw [hnone, readOptional]
  change _ = (fun q => q.ofRun r) <$> MapQuery.read now p
  simp only [MapQuery.read, Parameters.ofRun, map_bind, hread, hunread, ok_bind]
  rfl

theorem findLayer_ofRun (hnone : q.reference = none) {name style : String}
    (h : ∀ l, g.find? name = some l → l.LatestRun r) :
    findLayer g present (q.ofRun r) name style = findLayer g present q name style := by
  rw [findLayer, findLayer]
  cases hfind : g.find? name with
  | none => rfl
  | some l =>
    have hlatest : l.LatestRun r := h l hfind
    simp only [ofRun, ensureTimes, hnone, Option.filter_some, Option.filter_none,
      hlatest.acceptsReference, hlatest.acceptsTime, Bool.not_true,
      Bool.false_eq_true, if_false]

theorem drawn_ofRun (hnone : q.reference = none) {style : String} {l : Layer}
    (h : l.LatestRun r) :
    (q.ofRun r).drawn present style l = q.drawn present style l := by
  rw [drawn, drawn, current?, current?, hnone]
  simp only [ofRun, h.lastTime?]

theorem ofQuery_ofRun (hnone : q.reference = none)
    (h : ∀ pair ∈ q.layers, ∀ l, g.find? pair.1 = some l → l.LatestRun r) :
    MapRequest.ofQuery s g present (q.ofRun r) =
      (MapRequest.ofQuery s g present q).map fun answer => answer.ofRun r := by
  have hfound : (q.layers.mapM fun pair => findLayer g present (q.ofRun r) pair.1 pair.2) =
      q.layers.mapM fun pair => findLayer g present q pair.1 pair.2 :=
    mapM_congr fun pair hpair => findLayer_ofRun hnone (h pair hpair)
  change _ = (fun answer => answer.ofRun r) <$> MapRequest.ofQuery s g present q
  simp only [MapRequest.ofQuery, map_bind]
  apply bind_congr
  intro _
  change (q.layers.mapM fun pair => findLayer g present (q.ofRun r) pair.1 pair.2) >>= _ = _
  rw [hfound]
  apply bind_congr_ok
  intro found hok
  apply bind_congr
  intro _
  apply bind_congr
  intro _
  apply bind_congr
  intro _
  -- all checks have passed, so that only what is drawn is left to compare
  have hdrawn : ((q.layers.zip found).mapM fun x =>
        MapRequest.resolve present (q.ofRun r) x.1.2 x.2) =
      (q.layers.zip found).mapM fun x => MapRequest.resolve present q x.1.2 x.2 := by
    apply mapM_congr
    intro x hx
    have hlayer := List.forall₂_zip (mapM_eq_ok.1 hok) hx
    rw [MapRequest.resolve_eq_answered, MapRequest.resolve_eq_answered,
      drawn_ofRun hnone (h x.1 (List.of_mem_zip hx).1 x.2 (findLayer_eq_ok.1 hlayer).1)]
  change ((q.layers.zip found).mapM fun x =>
    MapRequest.resolve present (q.ofRun r) x.1.2 x.2) >>= _ = _
  rw [hdrawn]
  rfl

end MapQuery

/-- The layers that are asked for and published, as far as they have times, have this latest
run. -/
def Generation.AgreeOnRun (g : Generation) (p : Parameters MapParameter) (r : Instant) : Prop :=
  ∀ pairs, pairLayers (p .layers) (p .styles) = .ok pairs →
    ∀ pair ∈ pairs, ∀ l, g.find? pair.1 = some l →
    l.LatestRun r

/-- A request that names no run is answered as if it named the latest one, or refused with the
same error, if that is the latest run of all its layers that have times. -/
theorem MapRequest.validate_ofRun {s : Settings} {g : Generation} {now present r : Instant}
    {p : Parameters MapParameter} (hnone : p .referenceTime = none) (hwhole : r.IsWhole)
    (h : g.AgreeOnRun p r) :
    validate s g now present (p.ofRun r) =
      (validate s g now present p).map fun answer => answer.ofRun r := by
  change _ = (fun answer => answer.ofRun r) <$> validate s g now present p
  rw [validate, validate, MapQuery.read_ofRun hnone hwhole, map_bind]
  have hread : refusing ((MapQuery.read now p).map fun q => q.ofRun r) =
      (fun q => q.ofRun r) <$> refusing (MapQuery.read now p) := by
    cases MapQuery.read now p with
    | error e => rfl
    | ok q => rfl
  rw [hread, bind_map_left]
  apply bind_congr_ok
  intro q hread
  have hreads := MapQuery.read_eq_ok.1 (refusing_eq_ok.1 hread)
  have hreference : q.reference = none := by
    have hrel := hreads.reference
    rw [hnone] at hrel
    generalize q.reference = reference at hrel
    cases hrel
    rfl
  exact MapQuery.ofQuery_ofRun hreference (h q.layers (pairLayers_eq_ok.2 hreads.layers))

namespace WindForecasts

def text : String := "\x7b\"name\":\"wind\",\"layer_type\":\"arrow\"\x7d"

def definition : Definition := { name := some "wind", layerType := some "arrow" }

def noon : Instant := ofFirstDay 43200 0

def reported : List (Instant × List Instant) :=
  [(noon, [noon, ofFirstDay 82800 0]), (ofFirstDay 0 0, [ofFirstDay 0 0, noon])]

def metadata : Metadata := { bbox := .world, times := .runs reported, levels := none }

def axis : TimeAxis where
  generations :=
    .runs (TimeAxis.sortRuns (Layer.runsOf reported))
    (TimeAxis.sortRuns_ascending _) (by decide)

def layer : Layer :=
  .assemble Reference.defaults (.ofDefinition text) definition .griddedForecast metadata
    noon (some axis)

def generation : Generation :=
  ((World.ofDefinition text metadata noon).run {} [.refresh]).catalog.current

def parameters : Parameters MapParameter := IceCharts.parametersOf "wind"

theorem reachable : generation.Reachable {} :=
  World.reachable_ofDefinition {} text metadata noon [.refresh]

theorem layers_generation : generation.layers = [layer] := by
  have hread : Definition.ofText? text = some definition := by cbv
  have hbbox : metadata.bbox.isValid = true := by
    change BoundingBox.world.isValid = true
    decide
  have hbuild :
      Layer.build Reference.defaults (.ofDefinition text) definition .griddedForecast
        metadata noon = .ok layer :=
    Layer.build_eq_ok.2 ⟨hbbox, _, rfl, .inl rfl, rfl⟩
  exact World.layers_ofDefinition rfl rfl hread rfl hbuild

theorem validate_parameters :
    ∃ answer, MapRequest.validate {} generation noon noon parameters = .ok answer ∧
      answer.layers =
        [{ layer := layer, style := "default", current := some (ofFirstDay 82800 0) }] := by
  have hfind := Generation.find?_of_layers_eq layers_generation
  have hwind : Paired (splitList "wind") (splitList "") [("wind", "")] :=
    ⟨List.cons_ne_nil _ _, by decide, .inl ⟨rfl, rfl⟩⟩
  have hcrs : layer.acceptsCrs "EPSG:4326" = true := by
    change (Layer.crsOf Reference.defaults definition).contains "EPSG:4326" = true
    decide +kernel
  have hversion : Settings.supportsVersion {} "1.3.0" = true := by decide
  have hformat : Settings.supportsFormat {} "image/png" = true := by decide +kernel
  have hcurrent : layer.lastTime? noon none = some (some (ofFirstDay 82800 0)) := rfl
  obtain ⟨answer, hanswer, _, _, hdrawn⟩ :=
    IceCharts.validate_current hfind hwind hversion hformat hcrs hcurrent
  exact ⟨answer, hanswer, hdrawn⟩

theorem latestRun : layer.LatestRun noon := by
  rintro a ⟨⟩
  refine ⟨rfl, ?_⟩
  intro r hr
  have hmem : r ∈ [ofFirstDay 0 0, noon] := List.elem_iff.1 hr
  simp only [List.mem_cons, List.not_mem_nil, or_false] at hmem
  rcases hmem with rfl | rfl
  · decide
  · exact le_refl noon

theorem agreeOnRun : generation.AgreeOnRun parameters noon := by
  intro pairs _ pair _ l hl
  have hmem := (Generation.find?_eq_some_iff.1 hl).1
  rw [layers_generation, List.mem_singleton] at hmem
  rw [hmem]
  exact latestRun

end WindForecasts

open WindForecasts in
/-- The forecast of noon is drawn at its last time, whether the run of noon is named or not. -/
theorem MapRequest.validate_ofRun_wind :
    ∃ g answer, Generation.Reachable {} g ∧ parameters .referenceTime = none ∧ noon.IsWhole ∧
      g.AgreeOnRun parameters noon ∧ validate {} g noon noon parameters = .ok answer ∧
      answer.layers =
        [{ layer := layer, style := "default", current := some (ofFirstDay 82800 0) }] ∧
      parameters.ofRun noon .referenceTime = some "1970-01-01T12:00:00Z" ∧
      validate {} g noon noon (parameters.ofRun noon) = .ok (answer.ofRun noon) := by
  obtain ⟨answer, hanswer, hlayers⟩ := validate_parameters
  have hwhole : noon.IsWhole := by decide
  have hsame : validate {} generation noon noon (parameters.ofRun noon) =
      (validate {} generation noon noon parameters).map fun answer => answer.ofRun noon :=
    validate_ofRun rfl hwhole agreeOnRun
  rw [hanswer] at hsame
  have hwritten : parameters.ofRun noon .referenceTime = some "1970-01-01T12:00:00Z" := by
    rw [Parameters.ofRun]
    decide +kernel
  exact ⟨generation, answer, reachable, rfl, hwhole, agreeOnRun, hanswer, hlayers,
    hwritten, hsame⟩

end LayerAtlas
