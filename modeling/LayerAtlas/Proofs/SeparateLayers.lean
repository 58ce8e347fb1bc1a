import LayerAtlas.Proofs.AdvertisedValues
import LayerAtlas.Proofs.Resubmission

namespace LayerAtlas

open Request Checks

def Parameters.alone (p : Parameters MapParameter) (pair : String × String) :
    Parameters MapParameter
  | .layers => some pair.1
  | .styles => some pair.2
  | parameter => p parameter

theorem Request.Paired.alone {layers styles : String} {pairs : List (String × String)}
    {pair : String × String} (h : Paired (splitList layers) (splitList styles) pairs)
    (hpair : pair ∈ pairs) :
    Paired (splitList pair.1) (splitList pair.2) [pair] := by
  obtain ⟨hlayer, hstyle⟩ := h.mem hpair
  apply paired_single (isElement_of_mem_splitList hlayer)
  · intro hempty
    exact h.2.1 (hempty ▸ hlayer)
  · exact hstyle.imp_right isElement_of_mem_splitList

namespace MapQuery

variable {s : Settings} {g : Generation} {now present : Instant} {p : Parameters MapParameter}
  {q q' : MapQuery}
  {r : MapRequest} {pair : String × String} {pairs : List (String × String)}

def ofLayers (q : MapQuery) (pairs : List (String × String)) : MapQuery :=
  { q with layers := pairs }

theorem Reads.unique (h : Reads now p q) (h' : Reads now p q') : q = q' :=
  Except.ok.inj ((read_eq_ok.2 h).symm.trans (read_eq_ok.2 h'))

theorem Reads.alone (h : Reads now p q) (hpair : pair ∈ q.layers) :
    Reads now (p.alone pair) (q.ofLayers [pair]) :=
  { h with layers := h.layers.alone hpair }

theorem Reads.together (h : Reads now (p.alone pair) q)
    (hpairs : Paired (splitList ((p .layers).getD ""))
    (splitList ((p .styles).getD "")) pairs) :
    Reads now p (q.ofLayers pairs) :=
  { h with layers := hpairs }

theorem Servable.alone (h : q.Servable s g present) (hpair : pair ∈ q.layers) :
    (q.ofLayers [pair]).Servable s g present := by
  refine ⟨h.version, h.format, h.bbox, ?_⟩
  intro pair' hpair'
  rw [List.mem_singleton.1 hpair']
  obtain ⟨l, hl, hoffers⟩ := h.layers pair hpair
  exact ⟨l, hl, { hoffers with }⟩

/-- Nothing that is asked of one layer depends on the others. -/
theorem Servable.together (hpair : pair ∈ pairs)
    (h : ∀ pair ∈ pairs, (q.ofLayers [pair]).Servable s g present) :
    (q.ofLayers pairs).Servable s g present := by
  obtain ⟨hversion, hformat, hbbox, _⟩ := h pair hpair
  refine ⟨hversion, hformat, hbbox, ?_⟩
  intro pair' hpair'
  obtain ⟨l, hl, hoffers⟩ := (h pair' hpair').layers pair' (List.mem_singleton_self pair')
  exact ⟨l, hl, { hoffers with }⟩

theorem Tells.together (h : ∀ pair ∈ pairs, (q.ofLayers [pair]).Tells g present) :
    (q.ofLayers pairs).Tells g present :=
  fun htimes pair hpair => h pair hpair htimes pair (List.mem_singleton_self pair)

end MapQuery

namespace MapRequest

variable {s : Settings} {g : Generation} {now present : Instant} {p : Parameters MapParameter}
  {pairs : List (String × String)} {r : MapRequest}

def only (r : MapRequest) (drawn : MapLayer) : MapRequest := { r with layers := [drawn] }

theorem answers_only {q : MapQuery} (h : q.Answer g present r) :
    List.Forall₂ (fun pair drawn => (q.ofLayers [pair]).Answer g present (r.only drawn))
      q.layers r.layers := by
  apply h.layers.imp
  intro pair drawn hdrawn
  exact { h with layers := .cons hdrawn .nil }

theorem validate_alone (hpairs : pairLayers (p .layers) (p .styles) = .ok pairs)
    (h : validate s g now present p = .ok r) :
    List.Forall₂
      (fun pair drawn => validate s g now present (p.alone pair) = .ok (r.only drawn)) pairs
      r.layers := by
  obtain ⟨q, hreads, hservable, hanswer⟩ := exists_query h
  have hsame := hpairs.symm.trans (pairLayers_eq_ok.2 hreads.layers)
  cases hsame
  have hall : ∀ pair ∈ q.layers, MapQuery.Reads now (p.alone pair) (q.ofLayers [pair]) ∧
      (q.ofLayers [pair]).Servable s g present :=
    fun pair hpair => ⟨hreads.alone hpair, hservable.alone hpair⟩
  apply ((List.forall₂_and_left _ _).2 ⟨hall, answers_only hanswer⟩).imp
  rintro pair drawn ⟨⟨hreads, hservable⟩, hanswer⟩
  exact validate_of_answer hreads hservable hanswer

theorem exists_validate_of_alone (hpairs : pairLayers (p .layers) (p .styles) = .ok pairs)
    (h : ∀ pair ∈ pairs, ∃ r, validate s g now present (p.alone pair) = .ok r) :
    ∃ r, validate s g now present p = .ok r := by
  have hpaired := pairLayers_eq_ok.1 hpairs
  obtain ⟨first, hfirst⟩ := List.exists_mem_of_ne_nil pairs hpaired.ne_nil
  obtain ⟨r, hr⟩ := h first hfirst
  obtain ⟨q, hreads, _⟩ := exists_query hr
  have htogether : MapQuery.Reads now p (q.ofLayers pairs) := hreads.together hpaired
  have halone : ∀ pair ∈ pairs, (q.ofLayers [pair]).Servable s g present ∧
      (q.ofLayers [pair]).Tells g present := by
    intro pair hpair
    obtain ⟨r', hr'⟩ := h pair hpair
    obtain ⟨q', hreads', hservable', hanswer'⟩ := exists_query hr'
    rw [hreads'.unique (htogether.alone hpair)] at hservable' hanswer'
    exact ⟨hservable', hanswer'.tells⟩
  have hservable := MapQuery.Servable.together hfirst fun pair hpair => (halone pair hpair).1
  obtain ⟨r', hr'⟩ := hservable.ofQuery (.together fun pair hpair => (halone pair hpair).2)
  exact ⟨r', validate_eq_ok.2 ⟨_, htogether, hr'⟩⟩

/-- A request for layers with their styles is accepted exactly if it is for each pair alone. Its
layers are those of the single answers one after the other, and everything else is the same in
all of them. -/
theorem validate_iff_alone (hpairs : pairLayers (p .layers) (p .styles) = .ok pairs) :
    ((∃ r, validate s g now present p = .ok r) ↔
      ∀ pair ∈ pairs, ∃ r, validate s g now present (p.alone pair) = .ok r) ∧
      ∀ r, validate s g now present p = .ok r → ∀ singles,
        List.Forall₂ (fun pair single => validate s g now present (p.alone pair) = .ok single)
          pairs singles →
          r.layers = singles.flatMap layers ∧
          ∀ single ∈ singles, { single with layers := r.layers } = r := by
  constructor
  · apply Iff.intro
    · rintro ⟨r, hr⟩ pair hpair
      obtain ⟨drawn, _, hdrawn⟩ := forall₂_exists (validate_alone hpairs hr) hpair
      exact ⟨r.only drawn, hdrawn⟩
    · exact exists_validate_of_alone hpairs
  · intro r hr singles hsingles
    have honly :
        List.Forall₂ (fun pair single => validate s g now present (p.alone pair) = .ok single)
          pairs (r.layers.map r.only) :=
      List.forall₂_map_right_iff.2 (validate_alone hpairs hr)
    have hsame : singles = r.layers.map r.only := by
      refine List.right_unique_forall₂' ?_ hsingles honly
      intro pair single single' h h'
      exact Except.ok.inj (h.symm.trans h')
    rw [hsame]
    constructor
    · rw [List.flatMap_map]
      exact (List.flatMap_singleton' r.layers).symm
    · intro single hsingle
      obtain ⟨drawn, _, rfl⟩ := List.mem_map.1 hsingle
      rfl

end MapRequest

namespace IceCharts

def twice : Parameters MapParameter
  | .layers => some "ice, ice"
  | .styles => some ","
  | parameter => parameters parameter

theorem pairLayers_twice :
    pairLayers (twice .layers) (twice .styles) = .ok [("ice", ""), ("ice", "")] := by
  decide +kernel

theorem validate_twice_alone (i : TimeInterval) :
    ∃ r, MapRequest.validate {} ((world i).run {} [.refresh]).catalog.current noon noon
      (twice.alone ("ice", "")) = .ok r ∧ r.layers = [drawn i] := by
  obtain ⟨q, hread, hq, htimes⟩ := read_parameters
  have hreads : MapQuery.Reads noon (twice.alone ("ice", "")) q :=
    { MapQuery.read_eq_ok.1 hread with }
  have haccepts : ∀ t ∈ q.times, (layer i).acceptsTime noon none t = some true := by
    rw [htimes]
    rintro t ⟨⟩
  obtain ⟨r, hr, _, _, hlayers⟩ := validate_of_read i (MapQuery.read_eq_ok.2 hreads) hq haccepts
  rw [if_pos htimes] at hlayers
  exact ⟨r, hr, hlayers⟩

end IceCharts

open IceCharts in
/-- The chart is drawn twice, each time as it is drawn alone. -/
theorem MapRequest.validate_iff_alone_twice :
    ∃ g r, pairLayers (twice .layers) (twice .styles) = .ok [("ice", ""), ("ice", "")] ∧
      validate {} g noon noon twice = .ok r ∧
      r.layers = [drawn threeHours, drawn threeHours] := by
  obtain ⟨single, hsingle, hdrawn⟩ := validate_twice_alone threeHours
  obtain ⟨haccepted, hlayers⟩ := validate_iff_alone pairLayers_twice
  have halone : ∀ pair ∈ [("ice", ""), ("ice", "")], ∃ r, validate {}
      ((world threeHours).run {} [.refresh]).catalog.current noon noon
      (twice.alone pair) = .ok r := by
    intro pair hpair
    have hpair : pair = ("ice", "") := by simpa using hpair
    rw [hpair]
    exact ⟨single, hsingle⟩
  obtain ⟨r, hr⟩ := haccepted.2 halone
  refine ⟨_, r, pairLayers_twice, hr, ?_⟩
  rw [(hlayers r hr [single, single] (.cons hsingle (.cons hsingle .nil))).1]
  simp [hdrawn]

end LayerAtlas
