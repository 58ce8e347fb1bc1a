import LayerAtlas.Proofs.CurrentTimes

namespace LayerAtlas

open Request Checks

namespace Access

variable {a : Access} {key layer : String} {layers : List String}
  {grants : List (String × Grant)}

/-- A grant of the key allows the layer, if there are grants at all. -/
def Admits (a : Access) (key layer : String) : Prop :=
  ∀ grants, a.grants = some grants → ∃ grant, (key, grant) ∈ grants ∧ grant.allows layer = true

theorem any_own_iff :
    ((grants.filter fun g => g.1 = key).any fun g => g.2.allows layer) = true ↔
    ∃ grant, (key, grant) ∈ grants ∧ grant.allows layer = true := by
  rw [List.any_eq_true]
  apply Iff.intro
  · rintro ⟨⟨k, grant⟩, hmem, hallows⟩
    obtain ⟨hmem, hown⟩ := List.mem_filter.1 hmem
    have hkey : k = key := of_decide_eq_true hown
    exact ⟨grant, hkey ▸ hmem, hallows⟩
  · rintro ⟨grant, hmem, hallows⟩
    exact ⟨(key, grant), List.mem_filter.2 ⟨hmem, decide_eq_true rfl⟩, hallows⟩

theorem authorizes_iff (hne : layers ≠ []) :
    a.authorizes key layers = true ↔ ∀ layer ∈ layers, a.Admits key layer := by
  obtain ⟨_ | grants⟩ := a
  · refine iff_of_true rfl ?_
    rintro layer _ grants ⟨⟩
  · rw [authorizes, Option.all_some, Bool.and_eq_true, decide_eq_true_eq, List.all_eq_true]
    apply Iff.intro
    · rintro ⟨_, hall⟩ layer hlayer _ ⟨⟩
      exact any_own_iff.1 (hall layer hlayer)
    · intro h
      have hall :
          ∀ layer ∈ layers, ((grants.filter fun g => g.1 = key).any fun g => g.2.allows layer) =
            true :=
        fun layer hlayer => any_own_iff.2 (h layer hlayer grants rfl)
      refine ⟨?_, hall⟩
      intro hnil
      obtain ⟨layer, hlayer⟩ := List.exists_mem_of_ne_nil layers hne
      have hnone := hall layer hlayer
      rw [hnil] at hnone
      cases hnone

theorem authorizes_single : a.authorizes key [layer] = true ↔ a.Admits key layer := by
  rw [authorizes_iff (List.cons_ne_nil layer []), List.forall_mem_singleton]

end Access

theorem Capabilities.mem_ofRequest_iff {g : Generation} {access : Access} {key : String}
    {layout : Layout} {l : Layer} :
    l ∈ (ofRequest g access { key := some key, authenticate := true, layout }).layers ↔
      l ∈ g.layers ∧ l.hidden = false ∧ access.Admits key l.name := by
  have hlayers : (ofRequest g access { key := some key, authenticate := true, layout }).layers =
      g.layers.filter (lists access { key := some key, authenticate := true, layout }) := rfl
  rw [hlayers, List.mem_filter, lists, Bool.and_eq_true, Bool.and_eq_true, Bool.not_eq_true']
  rw [Option.all_some, Access.authorizes_single]
  simp only [Option.all_none, and_true]

theorem Request.Paired.map_fst {layers styles : List String} {pairs : List (String × String)}
    (h : Paired layers styles pairs) : pairs.map Prod.fst = layers := by
  obtain ⟨_, _, ⟨_, rfl⟩ | ⟨_, hlength, rfl⟩⟩ := h
  · rw [List.map_map]
    exact List.map_id layers
  · exact List.map_fst_zip hlength.ge

theorem MapQuery.Answer.names_eq {g : Generation} {present : Instant} {q : MapQuery}
    {r : MapRequest} (h : q.Answer g present r) :
    q.layers.map Prod.fst = r.layers.map fun drawn => drawn.layer.name := by
  rw [← List.forall₂_eq_eq_eq, List.forall₂_map_left_iff, List.forall₂_map_right_iff]
  refine h.layers.imp ?_
  rintro pair drawn ⟨l, hl, hdrawn⟩
  rw [(MapQuery.drawn_eq_some_iff.1 hdrawn).1]
  exact (Generation.find?_eq_some_iff.1 hl).2.symm

namespace MapRequest

variable {s : Settings} {g : Generation} {now present : Instant} {p : Parameters MapParameter}
  {r : MapRequest}
  {access : Access} {key : String}

theorem splitList_of_validate (h : validate s g now present p = .ok r) :
    splitList ((p .layers).getD "") = r.layers.map fun drawn => drawn.layer.name := by
  obtain ⟨q, hreads, _, hanswer⟩ := exists_query h
  rw [← hanswer.names_eq]
  exact hreads.layers.map_fst.symm

theorem splitList_ne_nil_of_validate (h : validate s g now present p = .ok r) :
    splitList ((p .layers).getD "") ≠ [] := by
  obtain ⟨q, hreads, _⟩ := exists_query h
  exact hreads.layers.1

theorem mem_of_validate (h : validate s g now present p = .ok r) {drawn : MapLayer}
    (hdrawn : drawn ∈ r.layers) :
    drawn.layer ∈ g.layers := by
  obtain ⟨q, _, _, hanswer⟩ := exists_query h
  obtain ⟨pair, _, l, hl, hdrawn⟩ := forall₂_exists hanswer.layers.flip hdrawn
  rw [(MapQuery.drawn_eq_some_iff.1 hdrawn).1]
  exact (Generation.find?_eq_some_iff.1 hl).1

theorem authorizeMap_eq_ok_iff (h : validate s g now present p = .ok r) :
    authorizeMap access key p = .ok () ↔
    ∀ drawn ∈ r.layers, access.Admits key drawn.layer.name := by
  have hauthorizes : access.authorizes key (splitList ((p .layers).getD "")) = true ↔
      ∀ name ∈ splitList ((p .layers).getD ""), access.Admits key name :=
    Access.authorizes_iff (splitList_ne_nil_of_validate h)
  rw [splitList_of_validate h, List.forall_mem_map] at hauthorizes
  rw [authorizeMap, splitList_of_validate h, ← hauthorizes]
  split
  · rename_i hall
    exact iff_of_true rfl hall
  · rename_i hnot
    exact iff_of_false (by rintro ⟨⟩) hnot

theorem authorizeMap_eq_error_iff {e : RequestError} : authorizeMap access key p = .error e ↔
    authorizeMap access key p ≠ .ok () ∧
    e = .accessDenied "API key is not authorized for the requested layers" := by
  rw [authorizeMap]
  split
  · simp
  · simp [eq_comm]

/-- An accepted request for layers that are not hidden is authorized exactly if all of its
layers are listed for the key, which are those that the key may see; access to it is denied
otherwise. -/
theorem authorized_iff_listed (h : validate s g now present p = .ok r)
    (hshown : ∀ drawn ∈ r.layers, drawn.layer.hidden = false) (access : Access) (key : String)
    (layout : Layout) :
    let listed :=
      (Capabilities.ofRequest g access { key := some key, authenticate := true, layout }).layers
    (authorizeMap access key p = .ok () ↔
      ∀ drawn ∈ r.layers, drawn.layer.name ∈ listed.map Layer.name) ∧
      (authorizeMap access key p =
        .error (.accessDenied "API key is not authorized for the requested layers") ↔
        ∃ drawn ∈ r.layers, drawn.layer.name ∉ listed.map Layer.name) ∧
      ∀ drawn ∈ r.layers, (drawn.layer.name ∈ listed.map Layer.name ↔
        access.Admits key drawn.layer.name) := by
  intro listed
  have hlisted : ∀ drawn ∈ r.layers,
      (drawn.layer.name ∈ listed.map Layer.name ↔ access.Admits key drawn.layer.name) := by
    intro drawn hdrawn
    apply Iff.intro
    · intro hname
      obtain ⟨l, hl, heq⟩ := List.mem_map.1 hname
      rw [← heq]
      exact (Capabilities.mem_ofRequest_iff.1 hl).2.2
    · intro hadmits
      apply List.mem_map_of_mem
      exact Capabilities.mem_ofRequest_iff.2
        ⟨mem_of_validate h hdrawn, hshown drawn hdrawn, hadmits⟩
  have hok : authorizeMap access key p = .ok () ↔
      ∀ drawn ∈ r.layers, drawn.layer.name ∈ listed.map Layer.name := by
    rw [authorizeMap_eq_ok_iff h]
    exact forall₂_congr fun drawn hdrawn => (hlisted drawn hdrawn).symm
  refine ⟨hok, ?_, hlisted⟩
  rw [authorizeMap_eq_error_iff, and_iff_left rfl, Ne, hok]
  simp only [not_forall, exists_prop]

end MapRequest

def IceCharts.grants : Access := .ofPatterns [("north", "ice"), ("south", "sea:*")]

open IceCharts in
theorem MapRequest.authorized_iff_listed_ice :
    ∃ g r, validate {} g noon noon parameters = .ok r ∧
      (∀ drawn ∈ r.layers, drawn.layer.hidden = false) ∧
      authorizeMap grants "north" parameters = .ok () ∧
      (∀ drawn ∈ r.layers, drawn.layer.name ∈ ((Capabilities.ofRequest g grants
        { key := some "north", authenticate := true }).layers.map Layer.name)) ∧
      ∃ drawn ∈ r.layers, drawn.layer.name ∉ ((Capabilities.ofRequest g grants
        { key := some "south", authenticate := true }).layers.map Layer.name) := by
  obtain ⟨r, hr, _, _, hlayers⟩ := validate_parameters threeHours
  have hshown : ∀ drawn ∈ r.layers, drawn.layer.hidden = false := by
    rw [hlayers, List.forall_mem_singleton]
    rfl
  obtain ⟨hnorth, _⟩ := authorized_iff_listed hr hshown grants "north" .flat
  obtain ⟨_, hsouth, _⟩ := authorized_iff_listed hr hshown grants "south" .flat
  exact ⟨_, r, hr, hshown, by decide, hnorth.1 (by decide), hsouth.1 (by decide)⟩

end LayerAtlas
