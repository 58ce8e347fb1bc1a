import LayerAtlas.Proofs.ExplicitTimes
import LayerAtlas.Proofs.Extents

namespace LayerAtlas

open Instant Request Checks Text

/-- The parameters that print what an answer decided; the others are as they were sent. -/
def MapRequest.resubmitted (r : MapRequest) (p : Parameters MapParameter) :
    Parameters MapParameter
  | .layers => some (String.intercalate "," (r.layers.map fun drawn => drawn.layer.name))
  | .styles => some (String.intercalate "," (r.layers.map MapLayer.style))
  | .time => if r.times = [] then none
      else some (String.intercalate "," (r.times.map Timestamp.write))
  | .referenceTime => r.reference.map Timestamp.write
  | .elevation => r.elevation.map showInt
  | .intervalStart => r.interval.map fun ends => showInt ends.1
  | .intervalEnd => r.interval.map fun ends => showInt ends.2
  | parameter => p parameter

namespace Request

variable {layers styles : List String} {pairs : List (String × String)} {pair : String × String}
  {text : String}
  {n : Int} {value : Option String}

theorem Paired.mem (h : Paired layers styles pairs) (hpair : pair ∈ pairs) :
    pair.1 ∈ layers ∧ (pair.2 = "" ∨ pair.2 ∈ styles) := by
  obtain ⟨_, _, ⟨_, rfl⟩ | ⟨_, _, rfl⟩⟩ := h
  · obtain ⟨layer, hlayer, rfl⟩ := List.mem_map.1 hpair
    exact ⟨hlayer, .inl rfl⟩
  · obtain ⟨hlayer, hstyle⟩ := List.of_mem_zip hpair
    exact ⟨hlayer, .inr hstyle⟩

theorem Paired.ne_nil (h : Paired layers styles pairs) : pairs ≠ [] := by
  obtain ⟨hne, _, ⟨_, rfl⟩ | ⟨hstyles, hlength, rfl⟩⟩ := h
  · exact List.map_eq_nil_iff.not.2 hne
  · intro hnil
    rcases List.zip_eq_nil_iff.1 hnil with hnil | hnil
    · exact hne hnil
    · exact hstyles hnil

theorem paired_map (hne : pairs ≠ []) (hnames : "" ∉ pairs.map Prod.fst) :
    Paired (pairs.map Prod.fst) (pairs.map Prod.snd) pairs := by
  refine ⟨List.map_eq_nil_iff.not.2 hne, hnames,
    .inr ⟨List.map_eq_nil_iff.not.2 hne, ?_, List.zip_of_prod rfl rfl⟩⟩
  rw [List.length_map, List.length_map]

theorem isElement_of_paired {list list' : String}
    (h : Paired (splitList list) (splitList list') pairs) (hpair : pair ∈ pairs) :
    (IsElement pair.1 ∧ pair.1 ≠ "") ∧ IsElement (styleOrDefault pair.2) ∧
    styleOrDefault pair.2 ≠ "" := by
  obtain ⟨hlayer, hstyle⟩ := h.mem hpair
  refine ⟨⟨isElement_of_mem_splitList hlayer, ?_⟩, ?_⟩
  · intro hempty
    exact h.2.1 (hempty ▸ hlayer)
  · rw [styleOrDefault]
    split
    · exact ⟨⟨by decide, by decide +kernel⟩, by decide⟩
    · rename_i hne
      exact ⟨isElement_of_mem_splitList (hstyle.resolve_left hne), hne⟩

theorem Whole.showInt (h : Whole text n) : Whole (showInt n) n := by
  refine whole_showInt_iff.2 ⟨?_, rfl⟩
  have hbounds := (Option.filter_eq_some_iff.1 h).2
  exact of_decide_eq_true hbounds

theorem Times.written {now : Instant} {times : List Instant} (h : Times now value times)
    (hwhole : ∀ t ∈ times, t.IsWhole) :
    Times now
      (if times = [] then none else some (String.intercalate "," (times.map Timestamp.write)))
      times := by
  by_cases hnil : times = []
  · rw [if_pos hnil]
    exact hnil
  have hlength : times.length ≤ maxTimeValues := by
    cases value with
    | none => exact absurd h hnil
    | some text =>
      obtain ⟨specs, _, ⟨_, hnone⟩ | ⟨_, hexpand⟩⟩ := h
      · exact absurd hnone hnil
      · exact TimeSpec.length_expandAllWithin_le hexpand
  have htruncate : (times.map fun t => TimeSpec.single t.truncate) = times.map .single :=
    List.map_congr_left fun t ht => congrArg TimeSpec.single (truncate_of_isWhole (hwhole t ht))
  rw [if_neg hnil]
  refine ⟨_, TimeSpec.readList_timestamps hnil, .inr ⟨?_, ?_⟩⟩
  · -- printed instants are never taken for the word `current`
    intro hcurrent
    have hmem : TimeSpec.current ∈ times.map fun t => TimeSpec.single t.truncate := by
      rw [hcurrent]
      exact List.mem_singleton_self _
    obtain ⟨t, _, ht⟩ := List.mem_map.1 hmem
    cases ht
  · rw [htruncate, TimeSpec.expandAll_singles, if_pos hlength]

theorem rel_map_write {reference : Option Instant} (hwhole : ∀ t ∈ reference, t.IsWhole) :
    Option.Rel (fun text t => Timestamp.read text = .ok t) (reference.map Timestamp.write)
      reference := by
  cases reference with
  | none => exact .none
  | some t =>
    apply Option.Rel.some
    rw [Timestamp.read_write, truncate_of_isWhole (hwhole t rfl)]

theorem rel_map_showInt {o : Option Int} (h : Option.Rel Whole value o) :
    Option.Rel Whole (o.map showInt) o := by
  cases h with
  | none => exact .none
  | some hwhole => exact .some hwhole.showInt

theorem Ends.written {start stop : Option String} {interval : Option (Int × Int)}
    (h : Ends start stop interval) :
    Ends (interval.map fun ends => showInt ends.1) (interval.map fun ends => showInt ends.2)
      interval := by
  rcases h with ⟨_, _, rfl⟩ | ⟨_, _, a, b, _, _, ha, hb, rfl⟩
  · exact .inl ⟨rfl, rfl, rfl⟩
  · exact .inr ⟨_, _, a, b, rfl, rfl, ha.showInt, hb.showInt, rfl⟩

theorem acceptsStyle_styleOrDefault {l : Layer} {style : String}
    (h : l.acceptsStyle style = true) :
    l.acceptsStyle (styleOrDefault style) = true := by
  rw [styleOrDefault]
  split
  · simp [Layer.acceptsStyle, sameLetters]
  · exact h

end Request

namespace MapQuery

variable {s : Settings} {g : Generation} {now present : Instant} {p : Parameters MapParameter}
  {q : MapQuery}
  {r : MapRequest} {drawn : MapLayer}

theorem Answer.offers (h : q.Answer g present r) (hservable : q.Servable s g present)
    (hdrawn : drawn ∈ r.layers) :
    ∃ style, (drawn.layer.name, style) ∈ q.layers ∧
      g.find? drawn.layer.name = some drawn.layer ∧
      drawn.layer.Offers present q style ∧ q.drawn present style drawn.layer = some drawn := by
  obtain ⟨⟨name, style⟩, hpair, l, hl, hl'⟩ := forall₂_exists h.layers.flip hdrawn
  obtain ⟨m, hm, hoffers⟩ := hservable.layers _ hpair
  cases hl.symm.trans hm
  cases (drawn_eq_some_iff.1 hl').1
  have hname : drawn.layer.name = name := (Generation.find?_eq_some_iff.1 hl).2
  refine ⟨style, ?_, ?_, hoffers, hl'⟩
  · rw [← hname] at hpair
    exact hpair
  · rw [← hname] at hl
    exact hl

theorem Answer.isElement (h : q.Answer g present r) (hservable : q.Servable s g present)
    (hread : Reads now p q) (hdrawn : drawn ∈ r.layers) :
    (IsElement drawn.layer.name ∧ drawn.layer.name ≠ "") ∧ IsElement drawn.style ∧
    drawn.style ≠ "" := by
  obtain ⟨style, hpair, _, _, heq⟩ := h.offers hservable hdrawn
  have hstyle : drawn.style = styleOrDefault style := (drawn_eq_some_iff.1 heq).2.1
  rw [hstyle]
  exact isElement_of_paired hread.layers hpair

theorem Answer.layers_ne_nil (h : q.Answer g present r) (hread : Reads now p q) :
    r.layers ≠ [] := by
  intro hnil
  have hlayers := h.layers
  rw [hnil, List.forall₂_nil_right_iff] at hlayers
  exact hread.layers.ne_nil hlayers

/-- The query that asks for the layers of an answer in the styles that they are drawn in, and
gets the same answer. -/
def naming (q : MapQuery) (r : MapRequest) : MapQuery :=
  { q with layers := r.layers.map fun drawn => (drawn.layer.name, drawn.style) }

theorem Servable.naming (h : q.Servable s g present) (hanswer : q.Answer g present r) :
    (q.naming r).Servable s g present := by
  refine ⟨h.version, h.format, h.bbox, ?_⟩
  intro pair hpair
  obtain ⟨drawn, hdrawn, rfl⟩ := List.mem_map.1 hpair
  obtain ⟨style, _, hfind, hoffers, heq⟩ := hanswer.offers h hdrawn
  have hstyle : drawn.style = styleOrDefault style := (drawn_eq_some_iff.1 heq).2.1
  refine ⟨drawn.layer, hfind, ?_, hoffers.crs, hoffers.reference, hoffers.times,
    hoffers.elevation, hoffers.interval⟩
  rw [hstyle]
  exact acceptsStyle_styleOrDefault hoffers.style

theorem Answer.naming (h : q.Answer g present r) (hservable : q.Servable s g present)
    (hstyles : ∀ drawn ∈ r.layers, drawn.style ≠ "") : (q.naming r).Answer g present r := by
  refine { h with
    layers :=
      List.forall₂_map_left_iff.2 (List.forall₂_same.2 fun drawn hdrawn => ?_) }
  obtain ⟨style, _, hfind, _, heq⟩ := h.offers hservable hdrawn
  exact ⟨drawn.layer, hfind, drawn_eq_some_iff.2
    ⟨rfl, (if_neg (hstyles drawn hdrawn)).symm, (drawn_eq_some_iff.1 heq).2.2⟩⟩

end MapQuery

namespace MapRequest

variable {s : Settings} {g : Generation} {now present : Instant} {p : Parameters MapParameter}
  {q : MapQuery} {r : MapRequest}

theorem paired_resubmitted (hread : MapQuery.Reads now p q) (hservable : q.Servable s g present)
    (hanswer : q.Answer g present r) :
    Paired (splitList (((r.resubmitted p) .layers).getD ""))
      (splitList (((r.resubmitted p) .styles).getD ""))
      (q.naming r).layers := by
  have hne : r.layers ≠ [] := hanswer.layers_ne_nil hread
  have hlist :
      ∀ f : MapLayer → String, (∀ drawn ∈ r.layers, IsElement (f drawn) ∧ f drawn ≠ "") →
        splitList (String.intercalate "," (r.layers.map f)) = r.layers.map f ∧
        "" ∉ r.layers.map f := by
    intro f hf
    have hfilled : "" ∉ r.layers.map f := by
      intro hempty
      obtain ⟨drawn, hdrawn, hblank⟩ := List.mem_map.1 hempty
      exact (hf drawn hdrawn).2 hblank
    refine ⟨splitList_intercalate (List.map_eq_nil_iff.not.2 hne) ?_ ?_, hfilled⟩
    · intro hsingle
      rw [hsingle] at hfilled
      exact hfilled (List.mem_singleton_self "")
    · intro text htext
      obtain ⟨drawn, hdrawn, rfl⟩ := List.mem_map.1 htext
      exact (hf drawn hdrawn).1
  obtain ⟨hnames, hnamed⟩ := hlist (fun drawn => drawn.layer.name) fun drawn hdrawn =>
    (hanswer.isElement hservable hread hdrawn).1
  obtain ⟨hstyles, _⟩ := hlist MapLayer.style fun drawn hdrawn =>
    (hanswer.isElement hservable hread hdrawn).2
  have hfst :
      (q.naming r).layers.map Prod.fst = r.layers.map fun drawn => drawn.layer.name := by
    rw [MapQuery.naming, List.map_map]
    rfl
  have hsnd : (q.naming r).layers.map Prod.snd = r.layers.map MapLayer.style := by
    rw [MapQuery.naming, List.map_map]
    rfl
  change Paired
    (splitList (String.intercalate "," (r.layers.map fun drawn => drawn.layer.name)))
    (splitList (String.intercalate "," (r.layers.map MapLayer.style))) _
  rw [hnames, hstyles, ← hfst, ← hsnd]
  apply paired_map
  · exact List.map_eq_nil_iff.not.2 hne
  · rw [hfst]
    exact hnamed

theorem reads_resubmitted (hread : MapQuery.Reads now p q) (hservable : q.Servable s g present)
    (hanswer : q.Answer g present r) (htimes : ∀ t ∈ r.times, t.IsWhole)
    (hreference : ∀ t ∈ r.reference, t.IsWhole) :
    MapQuery.Reads now (r.resubmitted p) (q.naming r) := by
  rw [hanswer.times] at htimes
  rw [hanswer.reference] at hreference
  constructor
  case layers => exact paired_resubmitted hread hservable hanswer
  case version => exact hread.version
  case crs => exact hread.crs
  case format => exact hread.format
  case bboxText => exact hread.bboxText
  case bbox => exact hread.bbox
  case width => exact hread.width
  case height => exact hread.height
  case transparent => exact hread.transparent
  case times =>
    rw [resubmitted, hanswer.times]
    exact hread.times.written htimes
  case reference =>
    rw [resubmitted, hanswer.reference]
    exact rel_map_write hreference
  case elevation =>
    rw [resubmitted, hanswer.elevation]
    exact rel_map_showInt hread.elevation
  case interval =>
    rw [resubmitted, resubmitted, hanswer.interval]
    exact hread.interval.written

/-- The parameters that print an answer in whole seconds get the same answer. -/
theorem validate_resubmitted (h : validate s g now present p = .ok r)
    (htimes : ∀ t ∈ r.times, t.IsWhole) (hreference : ∀ t ∈ r.reference, t.IsWhole) :
    validate s g now present (r.resubmitted p) = .ok r := by
  obtain ⟨q, hreads, hservable, hanswer⟩ := exists_query h
  have hagain := reads_resubmitted hreads hservable hanswer htimes hreference
  have hanswer' : (q.naming r).Answer g present r :=
    hanswer.naming hservable fun drawn hdrawn => (hanswer.isElement hservable hreads hdrawn).2.2
  exact validate_of_answer hagain (hservable.naming hanswer) hanswer'

open IceCharts in
/-- Of two intervals one has no step; the hours of the other are asked for again one by one. -/
theorem validate_resubmitted_mixedSteps :
    ∃ g r, validate {} g noon noon (requesting mixedSteps) = .ok r ∧
      r.times = [ofFirstDay 0 0, ofFirstDay 3600 0] ∧ r.reference = none ∧
      r.resubmitted (requesting mixedSteps) .time =
        some "1970-01-01T00:00:00Z,1970-01-01T01:00:00Z" ∧
      r.resubmitted (requesting mixedSteps) .styles = some "default" ∧
      validate {} g noon noon (r.resubmitted (requesting mixedSteps)) = .ok r := by
  have hexpand : TimeSpec.expandAll noon [stepless, firstHour] =
      .ok [ofFirstDay 0 0, ofFirstDay 3600 0] := rfl
  obtain ⟨r, hr, htimes, hreference, hlayers⟩ :=
    validate_requesting threeHours readList_mixedSteps (by decide) hexpand (by decide)
  have hwhole : ∀ t ∈ r.times, t.IsWhole := by
    rw [htimes]
    decide
  have hnone : ∀ t ∈ r.reference, t.IsWhole := by
    rw [hreference]
    rintro t ⟨⟩
  refine ⟨_, r, hr, htimes, hreference, ?_, ?_, validate_resubmitted hr hwhole hnone⟩
  · rw [resubmitted, htimes]
    decide +kernel
  · rw [resubmitted, hlayers]
    rfl

end MapRequest

end LayerAtlas
