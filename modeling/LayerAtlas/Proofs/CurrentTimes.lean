import LayerAtlas.Proofs.LastInstants
import LayerAtlas.Proofs.SingleLayers
import LayerAtlas.Proofs.TimeMeaning
import Mathlib

namespace LayerAtlas

open Instant Request Checks

def TimeDimension.Simple : TimeDimension → Prop
  | steps _ => True
  | intervals is => ∃ i, is.items = [i]

namespace TimeDimension

variable {ts : List Instant} {d : TimeDimension} {limit : Option Instant} {t : Instant}

theorem contains_of_last? (hleap : ∀ t ∈ d.instants, ¬ t.IsLeap)
    (hlimit : ∀ l, limit = some l → ¬ l.IsLeap) (hend : limit = none → d.EndsOnStep)
    (h : d.last? limit = some (some t)) : d.contains limit t = some true :=
  (isLatest_last? hleap hlimit hend h).1.2

theorem Simple.endsOnStep_of_contains (hsimple : d.Simple)
    (hleap : ∀ t ∈ d.instants, ¬ t.IsLeap) (h : d.last? none = some (some t))
    (hcontains : d.contains none t = some true) :
    d.EndsOnStep := by
  cases d with
  | steps s => trivial
  | intervals is =>
    obtain ⟨i, hi⟩ := hsimple
    rw [last?, hi] at h
    cases h
    have hmem : i ∈ is.items := by
      rw [hi]
      exact List.mem_singleton_self i
    obtain ⟨hstart, hstop⟩ := mem_instants_of_mem_items hmem
    rw [contains_of_items_eq hi, TimeInterval.contains_iff (hleap _ hstart)
      (hleap _ hstop)] at hcontains
    intro k hk
    rw [hi, List.mem_singleton] at hk
    rw [hk]
    exact ⟨hcontains.1, hcontains.2.1⟩

end TimeDimension

namespace Layer

variable {kind : LayerKind} {definition : Definition} {l : Layer} {reference : Option Instant}
  {present t : Instant}

theorem simple_of_dimensionsOf {times : ReportedTimes} {a : TimeAxis}
    (h : dimensionsOf kind definition times = .ok (some a)) : ∀ d ∈ a.dimensions, d.Simple := by
  intro d hd
  obtain ⟨s, rfl⟩ | ⟨_, i, _, rfl⟩ | ⟨_, _, _, i, _, _, rfl⟩ := dimensionsOf_cases h hd
  · trivial
  · exact ⟨i, rfl⟩
  · exact ⟨i, rfl⟩

theorem simple_of_create {settings : Settings} {backend : Backend} {now : Instant}
    {source : Source} (h : create settings backend now source = .ok l) :
    ∀ a, l.time = some a → ∀ d ∈ a.dimensions, d.Simple := by
  obtain ⟨_, _, _, _, _, hbuild⟩ := create_eq_ok.1 h
  obtain ⟨_, time, haxis, _, rfl⟩ := build_eq_ok.1 hbuild
  rintro a rfl
  obtain ⟨axis, hdimensions, htime⟩ := axisOf_eq_ok.1 haxis
  obtain ⟨b, rfl, rfl⟩ := Option.map_eq_some_iff.1 htime.symm
  intro d hd
  exact simple_of_dimensionsOf hdimensions d hd

theorem exists_select_of_lastTime? (h : l.lastTime? present reference = some (some t)) :
    ∃ a d, l.timeAxis? = some a ∧ a.select reference = some d := by
  rw [lastTime?] at h
  cases haxis : l.timeAxis? with
  | none => simp [haxis] at h
  | some a =>
    cases hselect : a.select reference with
    | none => simp [haxis, TimeAxis.last?, hselect] at h
    | some d => exact ⟨a, d, rfl, hselect⟩

/-- No instant of the time axis lies in a leap second. -/
def LeapFree (l : Layer) : Prop :=
  ∀ a, l.timeAxis? = some a → ∀ d ∈ a.dimensions, ∀ t ∈ d.instants, ¬ t.IsLeap

/-- The times asked for end at the present, or with one of their steps. -/
def CurrentIsStep (l : Layer) (reference : Option Instant) : Prop :=
  ∀ a d, l.timeAxis? = some a → a.select reference = some d →
    a.endsAtPresent = true ∨ d.EndsOnStep

/-- The last time of a layer is one that it accepts, unless its times end between two steps. -/
theorem acceptsTime_lastTime?_iff
    (hsimple : ∀ a, l.time = some a → ∀ d ∈ a.dimensions, d.Simple) (hleap : l.LeapFree)
    (hpresent : ¬ present.IsLeap) (h : l.lastTime? present reference = some (some t)) :
    l.acceptsTime present reference t = some true ↔ l.CurrentIsStep reference := by
  obtain ⟨a, d, haxis, hselect⟩ := exists_select_of_lastTime? h
  rw [lastTime?_of_select haxis hselect] at h
  rw [acceptsTime_of_select haxis hselect]
  have hd : d ∈ a.dimensions := TimeAxis.mem_dimensions_of_select hselect
  have htime : l.time = some a := (Option.ite_none_left_eq_some.1 haxis).2
  have hstep : l.CurrentIsStep reference ↔ a.endsAtPresent = true ∨ d.EndsOnStep := by
    rw [CurrentIsStep, haxis]
    apply Iff.intro
    · intro hall
      exact hall a d rfl hselect
    · rintro hor _ _ ⟨⟩ hselect'
      cases hselect.symm.trans hselect'
      exact hor
  rw [hstep]
  cases hends : a.endsAtPresent with
  | true =>
    rw [TimeAxis.limit, if_pos hends] at h ⊢
    have hlimit : some present = none → d.EndsOnStep := fun hnone =>
      absurd hnone (Option.some_ne_none present)
    refine iff_of_true (TimeDimension.contains_of_last? (hleap a haxis d hd) ?_ hlimit h)
      (.inl rfl)
    rintro m ⟨⟩
    exact hpresent
  | false =>
    rw [TimeAxis.limit, hends, if_neg Bool.false_ne_true] at h ⊢
    rw [or_iff_right Bool.false_ne_true]
    apply Iff.intro
    · exact (hsimple a htime d hd).endsOnStep_of_contains (hleap a haxis d hd) h
    · intro hend
      refine TimeDimension.contains_of_last? (hleap a haxis d hd) ?_ (fun _ => hend) h
      rintro m ⟨⟩

end Layer

namespace MapQuery

variable {s : Settings} {g : Generation} {present : Instant} {q : MapQuery}
  {l : Layer} {t : Instant}

theorem Servable.single_iff (h : q.Servable s g present) {pair : String × String}
    (hpair : pair ∈ q.layers) (hl : g.find? pair.1 = some l) :
    (∃ r, MapRequest.ofQuery s g present { q with layers := [pair], times := [t] } = .ok r) ↔
      l.acceptsTime present q.reference t = some true := by
  obtain ⟨m, hm, hoffers⟩ := h.layers pair hpair
  cases hl.symm.trans hm
  apply Iff.intro
  · rintro ⟨r, hr⟩
    obtain ⟨m, hm, hoffers⟩ :=
      (servable_of_ofQuery hr).1.layers pair (List.mem_singleton_self pair)
    cases hl.symm.trans hm
    exact hoffers.times t (List.mem_singleton_self t)
  · intro haccepts
    refine Servable.ofQuery ⟨h.version, h.format, h.bbox, ?_⟩
      (.of_times (List.cons_ne_nil t []))
    intro pair' hpair'
    rw [List.mem_singleton.1 hpair']
    refine ⟨l, hl, hoffers.style, hoffers.crs, hoffers.reference, ?_, hoffers.elevation,
      hoffers.interval⟩
    intro t' ht'
    rw [List.mem_singleton.1 ht']
    exact haccepts

end MapQuery

/-- A request without times that is accepted gets for each layer a current time that the layer
accepts, and that the layer can be asked for, exactly if the times of the layer end with a
step. -/
theorem MapRequest.current_accepted_iff {s : Settings} {g : Generation} (hg : g.Reachable s)
    {now present : Instant} {p : Parameters MapParameter} {r : MapRequest}
    (h : MapRequest.validate s g now present p = .ok r) (htimes : r.times = [])
    (hpresent : ¬ present.IsLeap) :
    ∃ q, MapQuery.Reads now p q ∧
      List.Forall₂ (fun pair drawn => drawn.layer.LeapFree → ∀ t, drawn.current = some t →
        (drawn.layer.acceptsTime present r.reference t = some true ↔
          drawn.layer.CurrentIsStep r.reference) ∧
        ((∃ again, ofQuery s g present { q with layers := [pair], times := [t] } = .ok again) ↔
          drawn.layer.CurrentIsStep r.reference)) q.layers r.layers := by
  obtain ⟨q, hreads, hservable, hanswer⟩ := exists_query h
  refine ⟨q, hreads, ?_⟩
  have hsimple : ∀ l ∈ g.layers, ∀ a, l.time = some a → ∀ d ∈ a.dimensions, d.Simple :=
    hg.forall_layers fun _ _ _ _ hcreate => Layer.simple_of_create hcreate
  have hpairs := (List.forall₂_and_left _ _).2 ⟨fun pair hpair => hpair, hanswer.layers⟩
  refine hpairs.imp ?_
  rintro pair drawn ⟨hpair, l, hl, hdrawn⟩ hleap t ht
  rw [hanswer.reference]
  obtain ⟨current, hcurrent, rfl⟩ := Option.map_eq_some_iff.1 hdrawn
  cases ht
  rw [MapQuery.current?, if_pos (hanswer.times.symm.trans htimes)] at hcurrent
  have hlayer : l ∈ g.layers := (Generation.find?_eq_some_iff.1 hl).1
  have haccepts := Layer.acceptsTime_lastTime?_iff (hsimple l hlayer) hleap hpresent hcurrent
  exact ⟨haccepts, (hservable.single_iff hpair hl).trans haccepts⟩

namespace IceCharts

def text : String :=
  "\x7b\"name\":\"ice\",\"layer_type\":\"icemap\",\"metadata_update_interval\":3600\x7d"

def file : FileState := { modified := 1, text := some text }

def source : Source where
  customer := "north"
  nameSpace := "north"
  stem := "ice"
  path := Scan.pathOf (joinPath "config/wms" "customers") ["north", "ice.json"]
  modified := some file.modified
  text := file.text

def definition : Definition :=
  { name := some "ice", layerType := some "icemap", updateInterval := some 3600 }

def metadata (i : TimeInterval) : Metadata :=
  { bbox := .world, times := .period i.start i.stop i.minutes, levels := none }

def noon : Instant := ofFirstDay 43200 0

def world (i : TimeInterval) : World where
  products := .ofFile "north" "ice.json" ⟨by decide, by decide⟩ ⟨by decide, by decide⟩ file
  backend := fun _ _ => .ok (metadata i)
  now := noon

def layer (i : TimeInterval) : Layer :=
  .assemble Reference.defaults source definition .vectorStore (metadata i) noon
    (some (.single (.ofInterval i)))

def parameters : Parameters MapParameter
  | .version => some "1.3.0"
  | .layers => some "ice"
  | .crs => some "EPSG:4326"
  | .bbox => some "0,0,1,1"
  | .width => some "1"
  | .height => some "1"
  | .format => some "image/png"
  | _ => none

theorem definitionOf_source :
    Layer.definitionOf {} source = .ok (definition, .vectorStore) := by
  have hread : Definition.ofText? text = some definition := by cbv
  rw [Layer.definitionOf, source, file]
  simp only [hread]
  rfl

theorem build_charts {d : Definition} {i j : TimeInterval}
    (hmake : TimeInterval.make i.start i.stop (d.timestep.getD i.minutes) = .ok j) :
    Layer.build Reference.defaults source d .vectorStore (metadata i) noon =
      .ok (.assemble Reference.defaults source d .vectorStore (metadata i) noon
        (some (.single (.ofInterval j)))) := by
  have haxis :
      Layer.axisOf .vectorStore d (metadata i).times =
        .ok (some (.single (.ofInterval j))) := by
    change Except.map _
      (Except.map _ (TimeInterval.make i.start i.stop (d.timestep.getD i.minutes))) = _
    rw [hmake]
    rfl
  have hbbox : (metadata i).bbox.isValid = true := by
    change BoundingBox.world.isValid = true
    decide
  exact Layer.build_eq_ok.2 ⟨hbbox, _, haxis, .inl rfl, rfl⟩

theorem create_source (i : TimeInterval) :
    Layer.create {} (world i).backend noon source = .ok (layer i) := by
  have hmake : TimeInterval.make i.start i.stop i.minutes = .ok i :=
    TimeInterval.make_eq_ok.2 ⟨rfl, rfl, rfl⟩
  exact Layer.create_eq_ok.2 ⟨definition, .vectorStore, metadata i, definitionOf_source, rfl,
    build_charts hmake⟩

theorem scanned_world (i : TimeInterval) :
    (world i).scanned {} = .ok { sources := [source], broken := [] } :=
  scan_ofFile ⟨by decide, by decide⟩ ⟨by decide, by decide⟩ file (by decide) (by decide)

theorem layers_refresh (i : TimeInterval) :
    ((world i).run {} [.refresh]).catalog.current.layers = [layer i] :=
  World.layers_refresh_of_create rfl (scanned_world i) (create_source i)

def drawn (i : TimeInterval) : MapLayer :=
  { layer := layer i, style := "default", current := some i.stop }

structure AsksChart (q : MapQuery) : Prop where
  layers : q.layers = [("ice", "")]
  version : q.version = "1.3.0"
  format : q.format = "image/png"
  crs : q.crs = "EPSG:4326"
  bbox : q.bbox.isValid = true
  reference : q.reference = none
  elevation : q.elevation = none
  interval : q.interval = none

theorem read_parameters : ∃ q, MapQuery.read noon parameters = .ok q ∧ AsksChart q ∧
    q.times = [] :=
  ⟨_, rfl, ⟨rfl, rfl, rfl, rfl, by decide, rfl, rfl, rfl⟩, rfl⟩

theorem AsksChart.offers_of {q : MapQuery} (h : AsksChart q) {l : Layer} {present : Instant}
    (hcrs : l.acceptsCrs "EPSG:4326" = true)
    (haccepts : ∀ t ∈ q.times, l.acceptsTime present none t = some true) :
    l.Offers present q "" := by
  constructor
  case style => rfl
  case crs =>
    rw [h.crs]
    exact hcrs
  case reference => simp [h.reference]
  case times =>
    rw [h.reference]
    exact haccepts
  case elevation => simp [h.elevation]
  case interval => simp [h.interval]

theorem AsksChart.offers {q : MapQuery} (h : AsksChart q) {i : TimeInterval}
    (haccepts : ∀ t ∈ q.times, (layer i).acceptsTime noon none t = some true) :
    (layer i).Offers noon q "" := by
  have hcrs : (layer i).acceptsCrs "EPSG:4326" = true := by
    change (Layer.crsOf Reference.defaults definition).contains "EPSG:4326" = true
    decide +kernel
  exact h.offers_of hcrs haccepts

theorem validate_of_read {p : Parameters MapParameter} {q : MapQuery} (i : TimeInterval)
    (hread : MapQuery.read noon p = .ok q) (hq : AsksChart q)
    (haccepts : ∀ t ∈ q.times, (layer i).acceptsTime noon none t = some true) :
    ∃ r, MapRequest.validate {} ((world i).run {} [.refresh]).catalog.current noon
      noon p = .ok r ∧
      r.times = q.times ∧ r.reference = none ∧ r.layers =
        [{ layer := layer i, style := "default", current := if q.times = [] then some i.stop
          else none }] := by
  have hversion : Settings.supportsVersion {} q.version = true := by
    rw [hq.version]
    decide
  have hformat : Settings.supportsFormat {} q.format = true := by
    rw [hq.format]
    decide +kernel
  have hfind := Generation.find?_of_layers_eq (layers_refresh i)
  have hdrawn : q.drawn noon "" (layer i) = some
      { layer := layer i, style := "default", current := if q.times = [] then some i.stop
      else none } := by
    rw [MapQuery.drawn, MapQuery.current?, hq.reference]
    by_cases htimes : q.times = []
    · simp only [htimes, if_true]
      rfl
    · simp only [htimes, if_false]
      rfl
  obtain ⟨r, hr, htimes, hreference, hlayers⟩ :=
    Generation.validate_of_find? hfind hread hq.layers
    hversion hformat hq.bbox (hq.offers haccepts) hdrawn
  exact ⟨r, hr, htimes, hreference.trans hq.reference, hlayers⟩

theorem validate_parameters (i : TimeInterval) :
    ∃ r, MapRequest.validate {} ((world i).run {} [.refresh]).catalog.current noon noon
      parameters = .ok r ∧
      r.times = [] ∧ r.reference = none ∧ r.layers = [drawn i] := by
  obtain ⟨q, hread, hq, hnil⟩ := read_parameters
  obtain ⟨r, hr, htimes, hreference, hlayers⟩ :=
    validate_of_read i hread hq (by rw [hnil]; rintro t ⟨⟩)
  refine ⟨r, hr, htimes.trans hnil, hreference, ?_⟩
  rw [hlayers, if_pos hnil]
  rfl

theorem reachable (i : TimeInterval) :
    ((world i).run {} [.refresh]).catalog.current.Reachable {} := ⟨_, _, _, _, rfl⟩

theorem leapFree {i : TimeInterval} (hstart : ¬ i.start.IsLeap) (hstop : ¬ i.stop.IsLeap) :
    (layer i).LeapFree := by
  rintro a ⟨⟩ d hd t ht
  rw [List.mem_singleton.1 hd] at ht
  rcases List.mem_cons.1 ht with rfl | ht
  · exact hstart
  · rw [List.mem_singleton.1 ht]
    exact hstop

def halfPastTwo : TimeInterval := .hourly 9000

def threeHours : TimeInterval := .hourly 10800

end IceCharts

open IceCharts in
/-- The chart of half past two is current, but there is no such chart. -/
theorem MapRequest.current_refused_halfPastTwo :
    ∃ g r drawn t, Generation.Reachable {} g ∧ validate {} g noon noon parameters = .ok r ∧
      r.times = [] ∧
      drawn ∈ r.layers ∧ drawn.layer.LeapFree ∧ drawn.current = some t ∧
      drawn.layer.acceptsTime noon r.reference t = some false := by
  obtain ⟨r, hr, htimes, hreference, hlayers⟩ := validate_parameters halfPastTwo
  refine ⟨_, r, drawn halfPastTwo, halfPastTwo.stop, reachable halfPastTwo, hr, htimes, ?_,
    leapFree (by decide) (by decide), rfl, ?_⟩
  · rw [hlayers]
    exact List.mem_singleton_self _
  · rw [hreference]
    rfl

open IceCharts in
/-- The chart of three o'clock is current, and it can be asked for. -/
theorem MapRequest.current_accepted_threeHours :
    ∃ g r drawn t, Generation.Reachable {} g ∧ validate {} g noon noon parameters = .ok r ∧
      r.times = [] ∧
      drawn ∈ r.layers ∧ drawn.layer.LeapFree ∧ drawn.current = some t ∧
      drawn.layer.acceptsTime noon r.reference t = some true := by
  obtain ⟨r, hr, htimes, hreference, hlayers⟩ := validate_parameters threeHours
  obtain ⟨q, _, hall⟩ := current_accepted_iff (reachable threeHours) hr htimes (by decide)
  rw [hlayers] at hall
  obtain ⟨_, _, hfirst, _, _⟩ := List.forall₂_cons_right_iff.1 hall
  have hleap : (layer threeHours).LeapFree := leapFree (by decide) (by decide)
  have hstep : (layer threeHours).CurrentIsStep r.reference := by
    rw [hreference]
    rintro a d ⟨⟩ ⟨⟩
    refine .inr ?_
    intro j hj
    rw [List.mem_singleton.1 hj]
    exact ⟨by decide, 3, by decide⟩
  refine ⟨_, r, drawn threeHours, threeHours.stop, reachable threeHours, hr, htimes,
    ?_, hleap, rfl, (hfirst hleap _ rfl).1.2 hstep⟩
  rw [hlayers]
  exact List.mem_singleton_self _

end LayerAtlas
