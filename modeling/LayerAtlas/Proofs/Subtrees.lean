import LayerAtlas.Proofs.LetterCase
import LayerAtlas.Request.Capabilities

namespace LayerAtlas

open Text

namespace Text

variable {c : Char} {s t : List Char}

theorem intercalate_append {ps qs : List (List Char)} (hps : ps ≠ []) (hqs : qs ≠ []) :
    [c].intercalate (ps ++ qs) = [c].intercalate ps ++ [c] ++ [c].intercalate qs := by
  induction ps with
  | nil => exact absurd rfl hps
  | cons p ps ih =>
    by_cases hnil : ps = []
    · rw [hnil, List.singleton_append, List.intercalate_cons_of_ne_nil hqs,
        List.intercalate_singleton]
    · rw [List.cons_append, List.intercalate_cons_of_ne_nil
        (List.append_ne_nil_of_left_ne_nil hnil qs), ih hnil,
        List.intercalate_cons_of_ne_nil hnil]
      simp only [List.append_assoc]

/-- The parts of a text between separators are a prefix of those of another text exactly if the
texts are equal, or the one goes on after it with a separator. -/
theorem splitOn_prefix_iff : s.splitOn c <+: t.splitOn c ↔ t = s ∨ s ++ [c] <+: t := by
  apply Iff.intro
  · rintro ⟨parts, hparts⟩
    have hs : [c].intercalate (s.splitOn c) = s := List.intercalate_splitOn c
    have ht : [c].intercalate (t.splitOn c) = t := List.intercalate_splitOn c
    cases parts with
    | nil =>
      rw [List.append_nil] at hparts
      rw [← ht, ← hparts, hs]
      exact .inl rfl
    | cons p ps =>
      rw [← hparts, intercalate_append (List.splitOn_ne_nil c s) (List.cons_ne_nil p ps),
        hs] at ht
      exact .inr ⟨_, ht⟩
  · rintro (rfl | ⟨rest, rfl⟩)
    · exact List.prefix_refl _
    · rw [List.append_assoc, List.singleton_append, List.splitOn_append_cons_self]
      exact List.prefix_append _ _

theorem splitOn_map {f : Char → Char} (hf : ∀ x, f x = c ↔ x = c) (s : List Char) :
    (s.map f).splitOn c = (s.splitOn c).map (List.map f) := by
  induction s with
  | nil => rfl
  | cons x s ih =>
    rw [List.map_cons, List.splitOn_cons_eq_if_modifyHead,
      List.splitOn_cons_eq_if_modifyHead, ih]
    by_cases hx : x = c
    · rw [if_pos (beq_iff_eq.2 ((hf x).2 hx)), if_pos (beq_iff_eq.2 hx)]
      rfl
    · rw [if_neg (beq_iff_eq.not.2 (mt (hf x).1 hx)), if_neg (beq_iff_eq.not.2 hx)]
      obtain ⟨p, ps, hsplit⟩ := List.exists_cons_of_ne_nil (List.splitOn_ne_nil c s)
      rw [hsplit]
      rfl

end Text

def components (name : String) : List String := (name.toList.splitOn ':').map String.ofList

theorem components_lower (name : String) :
    components (lower name) = (components name).map lower := by
  have hlower :
      ∀ part : List Char, String.ofList (part.map Char.toLower) =
        lower (String.ofList part) := by
    intro part
    apply String.toList_injective
    rw [lower, String.toList_map, String.toList_ofList, String.toList_ofList]
  rw [components, lower, String.toList_map, splitOn_map fun x =>
    toLower_eq_iff_of_not_isAlpha (by decide), List.map_map, components, List.map_map]
  exact List.map_congr_left fun part _ => hlower part

theorem components_prefix_iff {start name : String} :
    components start <+: components name ↔
    name.toList = start.toList ∨ start.toList ++ [':'] <+: name.toList := by
  rw [components, components, List.prefix_map_iff_of_injective fun _ _ =>
    String.ofList_injective, splitOn_prefix_iff]

namespace NameFilter

variable {text : String} {start name : String}

/-- The components of a namespace are the first ones of a name, letter case apart. -/
def Encloses (start name : String) : Prop :=
  (components start).map lower <+: (components name).map lower

theorem Encloses.trans {inner : String} (h : Encloses start inner) (h' : Encloses inner name) :
    Encloses start name :=
  List.IsPrefix.trans h h'

theorem Encloses.total {other : String} (h : Encloses start name) (h' : Encloses other name) :
    Encloses start other ∨ Encloses other start :=
  List.prefix_or_prefix_of_prefix h h'

theorem allows_nameSpace_iff : (nameSpace start).allows name = true ↔ Encloses start name := by
  rw [allows, Encloses, ← components_lower, ← components_lower, components_prefix_iff]
  simp

instance : Decidable (Encloses start name) := decidable_of_iff _ allows_nameSpace_iff

/-- A pattern that is not empty, between slashes and perhaps blanks around them. -/
def IsPattern (text : String) : Prop := ∃ p : String, p ≠ "" ∧ trim text = "/" ++ p ++ "/"

theorem IsPattern.head?_eq (h : IsPattern text) : (trim text).toList.head? = some '/' := by
  obtain ⟨p, -, htext⟩ := h
  rw [htext]
  simp

theorem patternText?_eq_none (h : ∀ p : String, p ≠ "" → text ≠ "/" ++ p ++ "/") :
    patternText? text = none := by
  rw [patternText?]
  split
  · rename_i rest htext
    rw [if_neg]
    rintro ⟨hlength, hlast⟩
    obtain ⟨p, rfl⟩ := List.getLast?_eq_some_iff.1 hlast
    apply h (String.ofList p)
    · intro hempty
      have hp : p = [] := String.ofList_injective hempty
      rw [hp] at hlength
      exact absurd hlength (by decide)
    · apply String.toList_injective
      rw [htext]
      simp
  · rfl

theorem read_of_not_isPattern (h : ¬ IsPattern text) :
    read text = .ok (nameSpace (trim text)) := by
  have hnone : patternText? (trim text) = none := patternText?_eq_none fun p hp htext =>
    h ⟨p, hp, htext⟩
  simp only [read, hnone]

end NameFilter

namespace Capabilities

variable {g : Generation} {access : Access} {r : CapabilitiesRequest}
  {filter : NameFilter} {l : Layer}

theorem mem_layers_filter_iff :
    l ∈ (ofRequest g access { r with filter := some filter }).layers ↔
      l ∈ (ofRequest g access { r with filter := none }).layers ∧
      filter.allows l.name = true := by
  simp only [ofRequest]
  split
  · simp
  · simp only [List.mem_filter, lists, Option.all_some, Option.all_none, Bool.and_true,
      Bool.and_eq_true]
    tauto

end Capabilities

namespace NameFilter

variable {text : String}

/-- A text that is no pattern selects the subtree of the names that it encloses. The layers
listed for a text are among those listed for a text that encloses it, and apart from those
listed for one where neither encloses the other. -/
theorem selects_subtree (h : ¬ IsPattern text) :
    ∃ f, read text = .ok f ∧ (∀ name, f.allows name = true ↔ Encloses (trim text) name) ∧
      ∀ other, ¬ IsPattern other → ∃ f', read other = .ok f' ∧
        ∀ (g : Generation) (access : Access) (r : CapabilitiesRequest),
          let listed := fun filter =>
            (Capabilities.ofRequest g access { r with filter := some filter }).layers
          (Encloses (trim other) (trim text) → listed f ⊆ listed f') ∧
            (¬ Encloses (trim other) (trim text) → ¬ Encloses (trim text) (trim other) →
              List.Disjoint (listed f) (listed f')) := by
  refine ⟨_, read_of_not_isPattern h, fun name => allows_nameSpace_iff, ?_⟩
  intro other h'
  refine ⟨_, read_of_not_isPattern h', ?_⟩
  intro g access r listed
  apply And.intro
  · intro hencloses l hl
    obtain ⟨hlisted, hallows⟩ := Capabilities.mem_layers_filter_iff.1 hl
    have hname : Encloses (trim text) l.name := allows_nameSpace_iff.1 hallows
    exact Capabilities.mem_layers_filter_iff.2
      ⟨hlisted, allows_nameSpace_iff.2 (hencloses.trans hname)⟩
  · intro hother htext l hl hl'
    have hname : Encloses (trim text) l.name :=
      allows_nameSpace_iff.1 (Capabilities.mem_layers_filter_iff.1 hl).2
    have hname' : Encloses (trim other) l.name :=
      allows_nameSpace_iff.1 (Capabilities.mem_layers_filter_iff.1 hl').2
    exact (hname'.total hname).elim hother htext

/-- Blanks around a text and letter case do not count, and a subtree goes on at a colon only. -/
theorem selects_subtree_ice :
    ¬ IsPattern " North:Ice " ∧ ¬ IsPattern "north" ∧ ¬ IsPattern "NORTH:icebergs" ∧
      ∃ f, read " North:Ice " = .ok f ∧ f.allows "north:ICE:drift" = true ∧
        f.allows "north:icebergs" = false ∧
        (∃ f', read "north" = .ok f' ∧
          ∀ (g : Generation) (access : Access) (r : CapabilitiesRequest),
          (Capabilities.ofRequest g access { r with filter := some f }).layers ⊆
            (Capabilities.ofRequest g access { r with filter := some f' }).layers) ∧
        ∃ f', read "NORTH:icebergs" = .ok f' ∧
          ∀ (g : Generation) (access : Access) (r : CapabilitiesRequest),
          List.Disjoint (Capabilities.ofRequest g access { r with filter := some f }).layers
            (Capabilities.ofRequest g access { r with filter := some f' }).layers := by
  have hice : ¬ IsPattern " North:Ice " := mt IsPattern.head?_eq (by decide)
  have hnorth : ¬ IsPattern "north" := mt IsPattern.head?_eq (by decide)
  have hicebergs : ¬ IsPattern "NORTH:icebergs" := mt IsPattern.head?_eq (by decide)
  obtain ⟨f, hread, hallows, hothers⟩ := selects_subtree hice
  obtain ⟨above, habove, hsubset⟩ := hothers "north" hnorth
  obtain ⟨beside, hbeside, hdisjoint⟩ := hothers "NORTH:icebergs" hicebergs
  refine ⟨hice, hnorth, hicebergs, f, hread, (hallows _).2 (by decide +kernel), ?_,
    ⟨above, habove, ?_⟩, beside, hbeside, ?_⟩
  · exact Bool.eq_false_iff.2 (mt (hallows _).1 (by decide +kernel))
  · exact fun g access r => (hsubset g access r).1 (by decide +kernel)
  · exact fun g access r => (hdisjoint g access r).2 (by decide +kernel) (by decide +kernel)

end NameFilter

end LayerAtlas
