import LayerAtlas.Catalog
import LayerAtlas.Proofs.Checks
import Mathlib.Data.Finset.Card
import Mathlib.Data.List.Induction

namespace LayerAtlas

namespace Outcome

def isNamed (name : String) (o : Outcome) : Bool := o.layer?.any fun l => l.name = name

def isCarried : Outcome → Bool
  | carried _ => true
  | _ => false

def first? (outcomes : List Outcome) (name : String) : Option Outcome :=
  outcomes.find? (isNamed name)

/-- The outcome number `i` is a layer, and none before it is a layer of the same name. -/
def FirstAt (outcomes : List Outcome) (i : Nat) (l : Layer) : Prop :=
  (∃ o, outcomes[i]? = some o ∧ o.layer? = some l) ∧
    ∀ j < i, ∀ o, outcomes[j]? = some o → ∀ m, o.layer? = some m → m.name ≠ l.name

theorem isNamed_iff {o : Outcome} {name : String} :
    o.isNamed name = true ↔ ∃ l, o.layer? = some l ∧ l.name = name := by
  rw [isNamed]
  cases o.layer? with
  | none => simp
  | some l => simp

theorem isNamed_of_layer? {o : Outcome} {l : Layer} (h : o.layer? = some l) :
    o.isNamed l.name = true :=
  isNamed_iff.2 ⟨l, h, rfl⟩

theorem first?_concat (os : List Outcome) (o : Outcome) (name : String) :
    first? (os ++ [o]) name =
      (first? os name).or (if o.isNamed name then some o else none) := by
  rw [first?, first?, List.find?_append]
  cases hname : o.isNamed name with
  | false => simp [hname]
  | true => simp [hname]

theorem first?_concat_of_some {os : List Outcome} {o found : Outcome} {name : String}
    (h : first? os name = some found) : first? (os ++ [o]) name = some found := by
  rw [first?_concat, h]
  rfl

theorem first?_concat_self {os : List Outcome} {o : Outcome} {l : Layer}
    (hfree : first? os l.name = none) (hl : o.layer? = some l) :
    first? (os ++ [o]) l.name = some o := by
  rw [first?_concat, hfree, isNamed_of_layer? hl]
  rfl

theorem first?_concat_of_taken {os : List Outcome} {o : Outcome}
    (htaken : ∀ l, o.layer? = some l → first? os l.name ≠ none) (name : String) :
    first? (os ++ [o]) name = first? os name := by
  cases hfirst : first? os name with
  | some found => exact first?_concat_of_some hfirst
  | none =>
    rw [first?_concat, hfirst, Option.none_or, if_neg]
    intro hnamed
    obtain ⟨l, hl, rfl⟩ := isNamed_iff.1 hnamed
    exact htaken l hl hfirst

theorem layer?_of_first? {os : List Outcome} {o : Outcome} {name : String}
    (h : first? os name = some o) :
    ∃ l, o.layer? = some l ∧ l.name = name := isNamed_iff.1 (List.find?_some h)

theorem exists_first? {os : List Outcome} {o : Outcome} {name : String} (ho : o ∈ os)
    (hname : o.isNamed name = true) : ∃ found, first? os name = some found := by
  cases h : first? os name with
  | none => exact absurd hname (List.find?_eq_none.1 h o ho)
  | some found => exact ⟨found, rfl⟩

theorem firstAt_iff {os : List Outcome} {l : Layer} :
    (∃ i, FirstAt os i l) ↔ ∃ o, first? os l.name = some o ∧ o.layer? = some l := by
  apply Iff.intro
  · intro h
    obtain ⟨i, ⟨o, ho, hl⟩, hbefore⟩ := h
    refine ⟨o, ?_, hl⟩
    obtain ⟨hi, rfl⟩ := List.getElem?_eq_some_iff.1 ho
    refine List.find?_eq_some_iff_getElem.2 ⟨isNamed_of_layer? hl, i, hi, rfl, ?_⟩
    intro j hj
    rw [Bool.not_eq_true', Bool.eq_false_iff]
    intro hnamed
    obtain ⟨m, hm, hname⟩ := isNamed_iff.1 hnamed
    exact hbefore j hj _ (List.getElem?_eq_getElem (hj.trans hi)) m hm hname
  · intro h
    obtain ⟨o, ho, hl⟩ := h
    obtain ⟨_, i, hi, rfl, hbefore⟩ := List.find?_eq_some_iff_getElem.1 ho
    refine ⟨i, ⟨_, List.getElem?_eq_getElem hi, hl⟩, ?_⟩
    intro j hj o' ho' m hm hname
    obtain ⟨hj', rfl⟩ := List.getElem?_eq_some_iff.1 ho'
    have hnot := hbefore j hj
    rw [Bool.not_eq_true', Bool.eq_false_iff] at hnot
    exact hnot (isNamed_iff.2 ⟨m, hm, hname⟩)

/-- No two outcomes are layers of one name. -/
def Apart (os : List Outcome) : Prop :=
  os.Pairwise fun o o' => ∀ l m, o.layer? = some l → o'.layer? = some m → l.name ≠ m.name

variable {os : List Outcome}

theorem Apart.firstAt_iff (h : Apart os) {i : Nat} {l : Layer} :
    FirstAt os i l ↔ ∃ o, os[i]? = some o ∧ o.layer? = some l := by
  apply Iff.intro
  · intro hfirst
    exact hfirst.1
  · intro hlayer
    refine ⟨hlayer, ?_⟩
    obtain ⟨o, ho, hl⟩ := hlayer
    intro j hj o' ho' m hm
    obtain ⟨hi, rfl⟩ := List.getElem?_eq_some_iff.1 ho
    obtain ⟨hj', rfl⟩ := List.getElem?_eq_some_iff.1 ho'
    exact List.pairwise_iff_getElem.1 h j i hj' hi hj m l hm hl

theorem Apart.nodup (h : Apart os) : ((os.filterMap layer?).map Layer.name).Nodup := by
  rw [List.Nodup, List.pairwise_map, List.pairwise_filterMap]
  apply h.imp
  intro o o' hne l hl m hm
  exact hne l m hl hm

end Outcome

namespace Selection

open Outcome

theorem insertLayer_perm {l : Layer} {ls : List Layer} (h : ∀ m ∈ ls, m.name ≠ l.name) :
    (insertLayer l ls).Perm (l :: ls) := by
  induction ls with
  | nil => exact .refl _
  | cons m r ih =>
    have hr : ∀ k ∈ r, k.name ≠ l.name := fun k hk => h k (List.mem_cons_of_mem m hk)
    rw [insertLayer]
    split
    · exact .refl _
    · split
      · exact ((ih hr).cons m).trans (.swap l m r)
      · rename_i h₁ h₂
        exact absurd (LinearLT.connected h₂ h₁) (h m List.mem_cons_self)

theorem ofOutcomes_concat (os : List Outcome) (o : Outcome) :
    ofOutcomes (os ++ [o]) = (ofOutcomes os).add o := by
  rw [ofOutcomes, List.foldl_append]
  rfl

theorem add_cases (s : Selection) (o : Outcome) :
    ((∃ l, o.layer? = some l ∧ (∀ m ∈ s.layers, m.name ≠ l.name) ∧
        (s.add o).layers = insertLayer l s.layers ∧ (s.add o).skipped = s.skipped ∧
        (s.add o).reused = s.reused + if o.isCarried then 1 else 0)) ∨
      ((∀ l, o.layer? = some l → ∃ m ∈ s.layers, m.name = l.name) ∧
        (s.add o).layers = s.layers ∧ (s.add o).skipped = s.skipped + 1 ∧
        (s.add o).reused = s.reused) := by
  simp only [add]
  split
  · rename_i hnone
    exact .inr ⟨fun l hl => absurd (hnone.symm.trans hl) (by simp), rfl, rfl, rfl⟩
  · rename_i l hl
    split
    · rename_i htaken
      refine .inr ⟨?_, rfl, rfl, rfl⟩
      intro l' hl'
      cases hl.symm.trans hl'
      simpa using htaken
    · rename_i hfree
      refine .inl ⟨l, hl, by simpa using hfree, rfl, rfl, ?_⟩
      cases o with
      | carried m => rfl
      | built m => rfl
      | failed e => cases hl

theorem first?_eq_none_iff {os : List Outcome} {ls : List Layer}
    (h : ∀ l, l ∈ ls ↔ ∃ o, first? os l.name = some o ∧ o.layer? = some l) (name : String) :
    first? os name = none ↔ ∀ m ∈ ls, m.name ≠ name := by
  apply Iff.intro
  · rintro hnone m hm rfl
    obtain ⟨o, ho, _⟩ := (h m).1 hm
    rw [hnone] at ho
    cases ho
  · intro hfree
    cases hfirst : first? os name with
    | none => rfl
    | some o =>
      obtain ⟨m, hm, rfl⟩ := layer?_of_first? hfirst
      exact absurd rfl (hfree m ((h m).2 ⟨o, hfirst, hm⟩))

theorem mem_ofOutcomes {os : List Outcome} (l : Layer) :
    l ∈ (ofOutcomes os).layers ↔ ∃ o, first? os l.name = some o ∧ o.layer? = some l := by
  -- outcomes are added at the end, where they cannot come before the first of a name
  induction os using List.reverseRecOn generalizing l with
  | nil => simp [ofOutcomes, first?]
  | append_singleton os o ih =>
    have hnone := first?_eq_none_iff ih
    rw [ofOutcomes_concat]
    obtain ⟨k, hk, hfree, hlayers, _, _⟩ | ⟨htaken, hlayers, _, _⟩ :=
      add_cases (ofOutcomes os) o
    · rw [hlayers, (insertLayer_perm hfree).mem_iff, List.mem_cons]
      apply Iff.intro
      · intro h
        rcases h with rfl | hl
        · exact ⟨o, first?_concat_self ((hnone _).2 hfree) hk, hk⟩
        · obtain ⟨found, hfound, hlayer⟩ := (ih l).1 hl
          exact ⟨found, first?_concat_of_some hfound, hlayer⟩
      · intro h
        obtain ⟨found, hfound, hlayer⟩ := h
        cases hfirst : first? os l.name with
        | some o' =>
          rw [first?_concat_of_some hfirst] at hfound
          cases hfound
          exact .inr ((ih l).2 ⟨_, hfirst, hlayer⟩)
        | none =>
          rw [first?_concat, hfirst, Option.none_or] at hfound
          obtain ⟨_, hfound⟩ := Option.ite_none_right_eq_some.1 hfound
          cases hfound
          exact .inl (Option.some.inj (hlayer.symm.trans hk))
    · have htaken' : ∀ m, o.layer? = some m → first? os m.name ≠ none := by
        intro m hm hfirst
        obtain ⟨k, hk, hname⟩ := htaken m hm
        exact (hnone _).1 hfirst k hk hname
      rw [hlayers, first?_concat_of_taken htaken']
      exact ih l

theorem layers_add_skipped (os : List Outcome) :
    (ofOutcomes os).layers.length + (ofOutcomes os).skipped = os.length := by
  induction os using List.reverseRecOn with
  | nil => rfl
  | append_singleton os o ih =>
    rw [ofOutcomes_concat, List.length_append, List.length_singleton, ← ih]
    obtain ⟨k, _, hfree, hlayers, hskipped, _⟩ | ⟨_, hlayers, hskipped, _⟩ :=
      add_cases (ofOutcomes os) o
    · rw [hlayers, hskipped, (insertLayer_perm hfree).length_eq, List.length_cons]
      omega
    · rw [hlayers, hskipped]
      omega

/-- The layers counted as reused are those chosen whose first outcome was carried over. -/
theorem reused_ofOutcomes (os : List Outcome) :
    (ofOutcomes os).reused =
      (ofOutcomes os).layers.countP fun l => (first? os l.name).any isCarried := by
  induction os using List.reverseRecOn with
  | nil => rfl
  | append_singleton os o ih =>
    have hold :
        ((ofOutcomes os).layers.countP fun l => (first? (os ++ [o]) l.name).any isCarried) =
          (ofOutcomes os).reused := by
      rw [ih]
      refine List.countP_congr fun l hl => ?_
      obtain ⟨found, hfound, _⟩ := (mem_ofOutcomes l).1 hl
      rw [first?_concat_of_some hfound, hfound]
    rw [ofOutcomes_concat]
    obtain ⟨k, hk, hfree, hlayers, _, hreused⟩ | ⟨_, hlayers, _, hreused⟩ :=
      add_cases (ofOutcomes os) o
    · have hfirst := first?_concat_self ((first?_eq_none_iff mem_ofOutcomes k.name).2 hfree) hk
      rw [hlayers, hreused, (insertLayer_perm hfree).countP_eq, List.countP_cons, hold, hfirst]
      rfl
    · rw [hlayers, hreused, hold]

theorem names_ofOutcomes (os : List Outcome) (name : String) :
    name ∈ (ofOutcomes os).layers.map Layer.name ↔
    name ∈ (os.filterMap Outcome.layer?).map Layer.name := by
  simp only [List.mem_map, List.mem_filterMap]
  apply Iff.intro
  · intro h
    obtain ⟨l, hl, rfl⟩ := h
    obtain ⟨o, ho, hlayer⟩ := (mem_ofOutcomes l).1 hl
    exact ⟨l, ⟨o, List.mem_of_find?_eq_some ho, hlayer⟩, rfl⟩
  · intro h
    obtain ⟨l, ⟨o, ho, hlayer⟩, rfl⟩ := h
    obtain ⟨found, hfound⟩ := exists_first? ho (isNamed_of_layer? hlayer)
    obtain ⟨m, hm, hname⟩ := layer?_of_first? hfound
    exact ⟨m, (mem_ofOutcomes m).2 ⟨found, hname ▸ hfound, hm⟩, hname⟩

theorem length_ofOutcomes (os : List Outcome) :
    (ofOutcomes os).layers.length =
      ((os.filterMap Outcome.layer?).map Layer.name).toFinset.card := by
  have hcard := List.toFinset_card_of_nodup (ofOutcomes os).ascending.nodup
  rw [List.length_map] at hcard
  rw [← hcard]
  congr 1
  ext name
  rw [List.mem_toFinset, List.mem_toFinset, names_ofOutcomes]

theorem skipped_of_apart {os : List Outcome} (h : Apart os) :
    (ofOutcomes os).skipped = os.countP fun o => o.layer? = none := by
  have htotal := layers_add_skipped os
  have hlength := length_ofOutcomes os
  rw [List.toFinset_card_of_nodup h.nodup, List.length_map,
    List.length_filterMap_eq_countP] at hlength
  have hcount := List.length_eq_countP_add_countP (fun o : Outcome => o.layer?.isSome) (l := os)
  have hnone :
      (os.countP fun o => ¬ o.layer?.isSome = true) = os.countP fun o => o.layer? = none := by
    simp
  omega

end Selection

namespace Generation

theorem find?_eq_some_iff {g : Generation} {name : String} {l : Layer} :
    g.find? name = some l ↔ l ∈ g.layers ∧ l.name = name :=
  Checks.find?_key_eq_some_iff g.ascending.nodup

end Generation

open Outcome in
/-- After a refresh a name is published if some source has become a layer of that name, and it
is the layer of the first such source. The summary counts the names, the other sources, and the
published layers that were carried over. -/
theorem Catalog.refresh_publishes (c : Catalog) (found : Scan)
    (build : Source → Except BuildError Layer) (now : Instant) :
    let outcomes := found.sources.map (Outcome.ofSource c.current build now)
    ∃ summary next, c.refresh (.ok found) build now = (.ok summary, next) ∧
      (∀ name, (∃ l, next.current.find? name = some l) ↔
        ∃ o ∈ outcomes, ∃ l, o.layer? = some l ∧ l.name = name) ∧
      (∀ name l, next.current.find? name = some l ↔ l.name = name ∧ ∃ i, FirstAt outcomes i l) ∧
      summary.layers = ((outcomes.filterMap Outcome.layer?).map Layer.name).toFinset.card ∧
      summary.layers + summary.skipped = found.sources.length ∧
      summary.reused = next.current.layers.countP fun l =>
        (first? outcomes l.name).any isCarried := by
  intro outcomes
  refine ⟨_, _, rfl, ?_, ?_, Selection.length_ofOutcomes outcomes, ?_,
    Selection.reused_ofOutcomes outcomes⟩
  · intro name
    have hnames := Selection.names_ofOutcomes outcomes name
    simp only [List.mem_map, List.mem_filterMap] at hnames
    apply Iff.intro
    · intro h
      obtain ⟨l, hl⟩ := h
      obtain ⟨m, ⟨o, ho, hm⟩, hname⟩ := hnames.1 ⟨l, Generation.find?_eq_some_iff.1 hl⟩
      exact ⟨o, ho, m, hm, hname⟩
    · intro h
      obtain ⟨o, ho, m, hm, hname⟩ := h
      obtain ⟨l, hl⟩ := hnames.2 ⟨m, ⟨o, ho, hm⟩, hname⟩
      exact ⟨l, Generation.find?_eq_some_iff.2 hl⟩
  · intro name l
    rw [Generation.find?_eq_some_iff, firstAt_iff, and_comm]
    exact and_congr_right fun _ => Selection.mem_ofOutcomes l
  · have htotal := Selection.layers_add_skipped outcomes
    rw [List.length_map] at htotal
    exact htotal

end LayerAtlas
