import LayerAtlas.Proofs.LetterCase
import LayerAtlas.Proofs.MapAcceptance
import LayerAtlas.Proofs.ReferenceSystems

namespace LayerAtlas

open Text Request Checks

/-- The same reference system, its identifier in another letter case. -/
def Reference.Recased (r r' : Reference) : Prop :=
  sameLetters r.id r'.id = true ∧ r' = { r with id := r'.id }

structure Definition.Recased (d d' : Definition) : Prop where
  ownCrs : Option.Rel (fun own own' => sameLetters own own' = true) d.ownCrs d'.ownCrs
  crsEnable : List.Forall₂ (fun id id' => sameLetters id id' = true) d.crsEnable d'.crsEnable
  crsDisable : List.Forall₂ (fun id id' => sameLetters id id' = true) d.crsDisable d'.crsDisable
  rest : d' =
    { d with ownCrs := d'.ownCrs, crsEnable := d'.crsEnable, crsDisable := d'.crsDisable }

theorem mentions_recased {ids ids' : List String}
    (h : List.Forall₂ (fun id id' => sameLetters id id' = true) ids ids')
    (crs : String) : Mentions ids crs ↔ Mentions ids' crs := by
  have hnormal : ids.map normalCrs = ids'.map normalCrs := by
    rw [← List.forall₂_eq_eq_eq, List.forall₂_map_left_iff, List.forall₂_map_right_iff]
    exact h.imp fun _ _ => normalCrs_congr
  rw [mentions_iff_mem, mentions_iff_mem, hnormal]

namespace Reference

variable {r r' : Reference} {references references' : List Reference}

theorem Recased.symm (h : r.Recased r') : r'.Recased r := by
  obtain ⟨hid, hrest⟩ := h
  refine ⟨sameLetters_symm hid, ?_⟩
  rw [hrest]

theorem exists_enabled_of_recased (h : List.Forall₂ Recased references references')
    {normal : String} (hex : ∃ r ∈ references, r.enabled = true ∧ normalCrs r.id = normal) :
    ∃ r ∈ references', r.enabled = true ∧ normalCrs r.id = normal := by
  obtain ⟨r, hr, henabled, hnormal⟩ := hex
  obtain ⟨r', hr', hid, hrest⟩ := forall₂_exists h hr
  refine ⟨r', hr', ?_, (normalCrs_congr hid).symm.trans hnormal⟩
  rw [hrest]
  exact henabled

end Reference

namespace Definition

variable {references references' : List Reference} {d d' : Definition} {crs crs' : String}

theorem shares_congr (h : normalCrs crs = normalCrs crs') :
    d.Shares references crs ↔ d.Shares references crs' := by
  simp only [Shares, mentions_congr h, h]

theorem Recased.shares_iff (hd : d.Recased d')
    (hreferences : List.Forall₂ Reference.Recased references references') :
    d.Shares references crs ↔ d'.Shares references' crs := by
  have hids :
      List.Forall₂ (fun id id' => sameLetters id id' = true) (references.map Reference.id)
        (references'.map Reference.id) := by
    rw [List.forall₂_map_left_iff, List.forall₂_map_right_iff]
    exact hreferences.imp fun _ _ => And.left
  have henabled : (∃ r ∈ references, r.enabled = true ∧ normalCrs r.id = normalCrs crs) ↔
      ∃ r ∈ references', r.enabled = true ∧ normalCrs r.id = normalCrs crs :=
    ⟨Reference.exists_enabled_of_recased hreferences,
      Reference.exists_enabled_of_recased
        (hreferences.flip.imp fun _ _ => Reference.Recased.symm)⟩
  rw [Shares, Shares, mentions_recased hd.crsEnable, mentions_recased hd.crsDisable,
    mentions_recased hids, henabled]

end Definition

namespace Layer

variable {references references' : List Reference} {d d' : Definition} {source : Source}
  {kind : LayerKind}
  {metadata : Metadata} {now : Instant} {l : Layer}

/-- The own reference system is the only one that a change of letter case can take away or
add. -/
theorem crsOf_eq_iff_of_recased
    (hreferences : List.Forall₂ Reference.Recased references references') (hd : d.Recased d') :
    crsOf references d = crsOf references' d' ↔
      ∀ own ∈ d.ownCrs, ∀ own' ∈ d'.ownCrs, (IsEpsg own ↔ IsEpsg own') ∨
        d.Shares references own := by
  simp only [crsOf_eq_iff, ← hd.shares_iff hreferences, Definition.Owns]
  have hrel := hd.ownCrs
  revert hrel
  generalize d.ownCrs = own
  generalize d'.ownCrs = own'
  intro hrel
  cases hrel with
  | none => simp
  | some hsame =>
    rename_i own own'
    have hnormal : normalCrs own = normalCrs own' := normalCrs_congr hsame
    simp only [Option.mem_def, Option.some.injEq, exists_eq_left', forall_eq', ← hnormal]
    apply Iff.intro
    · intro h
      by_cases hshared : d.Shares references own
      · exact .inr hshared
      · have hown := h own
        simp only [and_true, or_iff_left hshared] at hown
        exact .inl hown
    · intro h crs
      by_cases hcrs : normalCrs own = normalCrs crs
      · rw [← Definition.shares_congr hcrs]
        rcases h with hepsg | hshared
        · rw [hepsg]
        · exact iff_of_true (.inr hshared) (.inr hshared)
      · simp only [hcrs, and_false]

theorem build_recased (hd : d.Recased d')
    (h : build references source d kind metadata now = .ok l) :
    build references' source d' kind metadata now =
      .ok { l with crs := crsOf references' d' } := by
  obtain ⟨hbbox, time, haxis, htimed, rfl⟩ := build_eq_ok.1 h
  obtain ⟨ownCrs, crsEnable, crsDisable, rfl⟩ : ∃ ownCrs crsEnable crsDisable,
      d' = { d with ownCrs, crsEnable, crsDisable } := ⟨_, _, _, hd.rest⟩
  exact build_eq_ok.2 ⟨hbbox, time, haxis, htimed, rfl⟩

theorem acceptsCrs_congr {crs crs' : String} (h : sameLetters crs crs' = true) :
    l.acceptsCrs crs' = l.acceptsCrs crs := by
  rw [acceptsCrs, CrsSet.contains, ← normalCrs_congr h]
  rfl

end Layer

namespace MapRequest

variable {s : Settings} {g : Generation} {now present : Instant} {p : Parameters MapParameter}
  {r : MapRequest}
  {crs crs' : String}

theorem validate_recased (hcrs : p .crs = some crs) (h : sameLetters crs crs' = true)
    (hr : validate s g now present p = .ok r) :
    validate s g now present (Function.update p .crs (some crs')) =
      .ok { r with crs := crs' } := by
  obtain ⟨q, hreads, hservable, hanswer⟩ := exists_query hr
  have hasked : q.crs = crs := Option.some.inj (hreads.crs.1.symm.trans hcrs)
  have hgiven : Given (some crs') crs' :=
    ⟨rfl, trim_ne_empty_of_sameLetters h (hasked ▸ hreads.crs.2)⟩
  have hlayers :
      ∀ pair ∈ q.layers, ∃ l, g.find? pair.1 = some l ∧
        l.Offers present { q with crs := crs' } pair.2 := by
    intro pair hpair
    obtain ⟨l, hl, hoffers⟩ := hservable.layers pair hpair
    refine ⟨l, hl, { hoffers with crs := ?_ }⟩
    rw [Layer.acceptsCrs_congr h, ← hasked]
    exact hoffers.crs
  apply validate_of_answer (q := { q with crs := crs' })
  · exact { hreads with crs := hgiven }
  · exact { hservable with layers := hlayers }
  · exact { hanswer with layers := hanswer.layers, crs := rfl }

theorem validate_recased_iff (hcrs : p .crs = some crs) (h : sameLetters crs crs' = true) :
    (∃ r, validate s g now present p = .ok r) ↔
      ∃ r, validate s g now present (Function.update p .crs (some crs')) = .ok r := by
  apply Iff.intro
  · rintro ⟨r, hr⟩
    exact ⟨_, validate_recased hcrs h hr⟩
  · rintro ⟨r, hr⟩
    have hback := validate_recased (Function.update_self _ _ p) (sameLetters_symm h) hr
    rw [Function.update_idem, ← hcrs, Function.update_eq_self] at hback
    exact ⟨_, hback⟩

end MapRequest

/-- Definitions and settings that differ in letter case lead to the same layer, and to the same
reference systems exactly if both or neither of the own reference systems count, or nothing
depends on it. What a layer accepts, and whether a request is accepted, does not depend on the
letter case of the request. -/
theorem Layer.crs_eq_iff_recased {references references' : List Reference} {d d' : Definition}
    {source : Source} {kind : LayerKind} {metadata : Metadata} {now : Instant} {l : Layer}
    (hreferences : List.Forall₂ Reference.Recased references references') (hd : d.Recased d')
    (h : build references source d kind metadata now = .ok l) :
    (∃ l', build references' source d' kind metadata now = .ok l' ∧
      l' = { l with crs := l'.crs } ∧
      (l'.crs = l.crs ↔
        ∀ own ∈ d.ownCrs, ∀ own' ∈ d'.ownCrs, (IsEpsg own ↔ IsEpsg own') ∨
          d.Shares references own)) ∧
      (∀ crs crs', sameLetters crs crs' = true → l.acceptsCrs crs' = l.acceptsCrs crs) ∧
      ∀ s g now present p crs crs', p .crs = some crs → sameLetters crs crs' = true →
        ((∃ r, MapRequest.validate s g now present p = .ok r) ↔
          ∃ r, MapRequest.validate s g now present (Function.update p .crs (some crs')) =
            .ok r) := by
  refine ⟨⟨_, build_recased hd h, rfl, ?_⟩, fun _ _ => acceptsCrs_congr, ?_⟩
  · rw [← crsOf_eq_iff_of_recased hreferences hd, crs_of_build h]
    exact eq_comm
  · intro s g now present p crs crs' hcrs hsame
    exact MapRequest.validate_recased_iff hcrs hsame

namespace Relief

def recased : Definition :=
  { definition with
    crsEnable := ["EPSG:3035 ", "epsg:9999"]
    crsDisable := ["epsg:3857", "EPSG:3067"] }

def inSmallLetters : Definition := { definition with ownCrs := some "epsg:3067" }

theorem definition_recased : definition.Recased recased := by
  constructor
  case ownCrs => exact .some (sameLetters_refl _)
  case crsEnable => exact .cons (by cbv) (.cons (by cbv) .nil)
  case crsDisable => exact .cons (by cbv) (.cons (by cbv) .nil)
  case rest => rfl

theorem definition_inSmallLetters : definition.Recased inSmallLetters := by
  constructor
  case ownCrs => exact .some (by cbv)
  case crsEnable => exact List.forall₂_same.2 fun id _ => sameLetters_refl id
  case crsDisable => exact List.forall₂_same.2 fun id _ => sameLetters_refl id
  case rest => rfl

theorem not_owns_inSmallLetters (crs : String) : ¬ inSmallLetters.Owns crs := by
  rintro ⟨_, ⟨⟩, hepsg, _⟩
  exact absurd hepsg (by decide)

theorem not_shares : ¬ definition.Shares Reference.defaults "EPSG:3067" := by
  have hnormal : normalCrs "EPSG:3067" = "EPSG:3067" := by decide +kernel
  rintro ⟨hnot, _⟩
  rw [mentions_iff_mem, map_crsDisable, hnormal] at hnot
  exact absurd hnot (by decide)

end Relief

open Relief in
/-- With its own reference system in small letters the layer does not accept it. -/
theorem Layer.crs_ne_inSmallLetters :
    ∃ l l', build Reference.defaults source definition .map metadata noon = .ok l ∧
      build Reference.defaults source inSmallLetters .map metadata noon = .ok l' ∧
      definition.Recased inSmallLetters ∧ l.acceptsCrs "EPSG:3067" = true ∧
      l'.acceptsCrs "EPSG:3067" = false ∧
      l'.crs ≠ l.crs := by
  have haccepted : (crsOf Reference.defaults definition).contains "EPSG:3067" = true :=
    contains_crsOf_iff.2 (.inl ⟨"EPSG:3067", rfl, by decide, rfl⟩)
  have hrefused : (crsOf Reference.defaults inSmallLetters).contains "EPSG:3067" = false := by
    rw [Bool.eq_false_iff, Ne, contains_crsOf_iff]
    rintro (howns | hshares)
    · exact not_owns_inSmallLetters _ howns
    · exact not_shares hshares
  refine ⟨_, _, build_map _ _, build_map _ _, definition_inSmallLetters,
    haccepted, hrefused, ?_⟩
  intro hsame
  change crsOf _ inSmallLetters = crsOf _ definition at hsame
  rw [hsame, haccepted] at hrefused
  cases hrefused

open Relief in
/-- Other letters make no difference where the own reference system stays as it is. -/
theorem Layer.crs_eq_recased :
    ∃ l l', List.Forall₂ Reference.Recased Reference.defaults
        (Reference.defaults.map fun r => { r with id := lower r.id }) ∧
        definition.Recased recased ∧
      build Reference.defaults source definition .map metadata noon = .ok l ∧
      build (Reference.defaults.map fun r => { r with id := lower r.id }) source recased .map
        metadata noon = .ok l' ∧
      l'.crs = l.crs := by
  have hreferences : List.Forall₂ Reference.Recased Reference.defaults
      (Reference.defaults.map fun r => { r with id := lower r.id }) := by
    rw [List.forall₂_map_right_iff]
    exact List.forall₂_same.2 fun r _ => ⟨sameLetters_lower r.id, rfl⟩
  obtain ⟨l', hl', _, hcrs⟩ :=
    (crs_eq_iff_recased hreferences definition_recased
      (build_map Reference.defaults definition)).1
  refine ⟨_, l', hreferences, definition_recased, build_map _ _, hl', hcrs.2 ?_⟩
  rintro own hown own' hown'
  cases hown
  cases hown'
  exact .inl Iff.rfl

end LayerAtlas
