import LayerAtlas.Proofs.PrintedValues
import LayerAtlas.Proofs.Refusals

namespace LayerAtlas

namespace Text

variable {before after s : List Char}

theorem trimChars_surrounded (hbefore : ∀ c ∈ before, isBlank c = true)
    (hafter : ∀ c ∈ after, isBlank c = true) :
    trimChars (before ++ s ++ after) = trimChars s := by
  have hstart : trimStart (before ++ s ++ after) = trimStart (s ++ after) := by
    rw [List.append_assoc, trimStart, List.dropWhile_append_of_pos hbefore, trimStart]
  have hend : trimEnd (s ++ after) = trimEnd s := by
    rw [trimEnd, List.reverse_append, List.dropWhile_append_of_pos fun c hc =>
      hafter c (List.mem_reverse.1 hc), trimEnd]
  rw [trimChars, hstart, ← trimStart_trimEnd, hend, trimStart_trimEnd, trimChars]

end Text

namespace Request

open Text Checks

def Spaced (element part : String) : Prop :=
  ∃ before after : String, before.toList.all isBlank = true ∧ after.toList.all isBlank = true ∧
    part = before ++ element ++ after

/-- A text of elements between commas, with blanks around the elements. -/
def Lists (elements : List String) (text : String) : Prop :=
  ∃ parts, List.Forall₂ Spaced elements parts ∧ text = String.intercalate "," parts

variable {element part text layersText stylesText : String}
  {elements names styles : List String}
  {layers : Option String}

theorem Spaced.trim_eq (h : Spaced element part) : trim part = trim element := by
  obtain ⟨before, after, hbefore, hafter, rfl⟩ := h
  rw [trim, String.toList_append, String.toList_append,
    trimChars_surrounded (List.all_eq_true.1 hbefore) (List.all_eq_true.1 hafter), trim]

theorem Spaced.not_mem (h : Spaced element part) (hcomma : ',' ∉ element.toList) :
    ',' ∉ part.toList := by
  obtain ⟨before, after, hbefore, hafter, rfl⟩ := h
  have hblank : isBlank ',' = false := by decide
  rw [String.toList_append, String.toList_append, List.mem_append, List.mem_append]
  rintro ((h | h) | h)
  · cases hblank.symm.trans (List.all_eq_true.1 hbefore ',' h)
  · exact hcomma h
  · cases hblank.symm.trans (List.all_eq_true.1 hafter ',' h)

theorem Lists.map_trim_commaParts (h : Lists elements text)
    (helements : ∀ e ∈ elements, IsElement e) (hne : elements ≠ []) :
    (commaParts text).map trim = elements := by
  obtain ⟨parts, hspaced, rfl⟩ := h
  have hpairs := ((List.forall₂_and_left _ _).2 ⟨helements, hspaced⟩).flip
  have hparts : ∀ part ∈ parts, ',' ∉ part.toList := by
    intro part hpart
    obtain ⟨element, _, ⟨hcomma, _⟩, hpart⟩ := forall₂_exists hpairs hpart
    exact hpart.not_mem hcomma
  have hsome : parts ≠ [] := by
    rintro rfl
    exact hne (List.forall₂_nil_right_iff.1 hspaced)
  rw [commaParts_intercalate hsome hparts]
  refine (eq_map_of_forall₂ ?_ hpairs).symm
  rintro part element ⟨⟨_, htrim⟩, hpart⟩
  rw [hpart.trim_eq, htrim]

theorem splitList_eq_map_trim (hne : text ≠ "") :
    splitList text = (commaParts text).map trim := by
  rw [splitList, if_neg hne, commaParts, List.map_map]
  simp [Function.comp_def, trim]

theorem splitList_ne_nil (hne : text ≠ "") : splitList text ≠ [] := by
  rw [splitList_eq_map_trim hne, commaParts]
  exact List.map_eq_nil_iff.not.2
    (List.map_eq_nil_iff.not.2 (List.splitOn_ne_nil ',' text.toList))

theorem Lists.splitList_eq (h : Lists elements text) (helements : ∀ e ∈ elements, IsElement e)
    (hne : text ≠ "") :
    splitList text = elements := by
  rw [splitList_eq_map_trim hne]
  apply h.map_trim_commaParts helements
  rintro rfl
  obtain ⟨parts, hparts, rfl⟩ := h
  rw [List.forall₂_nil_left_iff.1 hparts] at hne
  exact hne rfl

/-- A text with nothing in it lists nothing, or one element that is empty. -/
theorem Lists.of_empty (h : Lists elements "") (helements : ∀ e ∈ elements, IsElement e) :
    elements = [] ∨ elements = [""] := by
  by_cases hne : elements = []
  · exact .inl hne
  · exact .inr (h.map_trim_commaParts helements hne).symm

/-- No layers are given, or there is nothing but blanks where the name of one should be. -/
def Nameless (layers : Option String) : Prop :=
  layers = none ∨ ∃ text, layers = some text ∧ ∃ part ∈ commaParts text, trim part = ""

theorem nameless_iff :
    Nameless layers ↔ splitList (layers.getD "") = [] ∨ "" ∈ splitList (layers.getD "") := by
  cases layers with
  | none => exact iff_of_true (.inl rfl) (.inl rfl)
  | some text =>
    rw [Nameless, or_iff_right (Option.some_ne_none text), Option.getD_some]
    by_cases hempty : text = ""
    · rw [hempty]
      exact iff_of_true ⟨"", rfl, "", List.mem_singleton_self _, rfl⟩ (.inl rfl)
    · rw [or_iff_right (splitList_ne_nil hempty), splitList_eq_map_trim hempty, List.mem_map]
      simp

section Named

variable (hne : names ≠ []) (hnames : ∀ name ∈ names, IsElement name ∧ name ≠ "")
  (hlayers : Lists names layersText)
include hne hnames hlayers

theorem splitList_of_named : splitList layersText = names := by
  have helements : ∀ name ∈ names, IsElement name := fun name hname => (hnames name hname).1
  apply hlayers.splitList_eq helements
  rintro rfl
  rcases hlayers.of_empty helements with hnone | hblank
  · exact hne hnone
  · exact (hnames "" (hblank ▸ List.mem_singleton_self "")).2 rfl

theorem pairLayers_of_named {styles? : Option String} {pairs : List (String × String)} :
    pairLayers (some layersText) styles? = .ok pairs ↔
      (splitList (styles?.getD "") = [] ∧ pairs = names.map fun name => (name, "")) ∨
        (splitList (styles?.getD "") ≠ [] ∧
          (splitList (styles?.getD "")).length = names.length ∧
          pairs = names.zip (splitList (styles?.getD ""))) := by
  have hempty : "" ∉ names := fun h => (hnames "" h).2 rfl
  rw [pairLayers_eq_ok, Option.getD_some, splitList_of_named hne hnames hlayers, Paired,
    and_iff_right hne, and_iff_right hempty]

variable (hstyles : ∀ style ∈ styles, IsElement style) (hlists : Lists styles stylesText)
include hstyles hlists

theorem pairLayers_of_length_eq (hlength : names.length = styles.length) :
    pairLayers (some layersText) (some stylesText) = .ok (names.zip styles) := by
  rw [pairLayers_of_named hne hnames hlayers, Option.getD_some]
  have hsome : styles ≠ [] := by
    rintro rfl
    exact hne (List.length_eq_zero_iff.1 hlength)
  by_cases hblank : stylesText = ""
  · rw [hblank] at hlists
    -- the one style that there can be is empty, as is that of the one layer
    have hone : styles = [""] := (hlists.of_empty hstyles).resolve_left hsome
    rw [hone] at hlength
    obtain ⟨name, rfl⟩ := List.length_eq_one_iff.1 hlength
    rw [hblank, hone]
    exact .inl ⟨rfl, rfl⟩
  · rw [hlists.splitList_eq hstyles hblank]
    exact .inr ⟨hsome, hlength.symm, rfl⟩

theorem pairLayers_of_length_ne (hblank : stylesText ≠ "")
    (hlength : names.length ≠ styles.length) :
    pairLayers (some layersText) (some stylesText) =
      .error (.layerStyleMismatch names.length styles.length) := by
  have hempty : "" ∉ names := fun h => (hnames "" h).2 rfl
  have hread : splitList stylesText = styles := hlists.splitList_eq hstyles hblank
  have hsome : styles ≠ [] := hread ▸ splitList_ne_nil hblank
  rw [pairLayers_fails, Option.getD_some, Option.getD_some,
    splitList_of_named hne hnames hlayers, hread]
  exact .inr ⟨hne, hempty, hsome, hlength.symm, rfl⟩

end Named

/-- Layers and styles that are listed in a request are read back in pairs. If no styles are
listed each layer has the empty one; if their number is another one, both numbers are reported.
Layers without a name are reported first. -/
theorem pairLayers_lists :
    (∀ names styles layersText stylesText, names ≠ [] →
      (∀ name ∈ names, IsElement name ∧ name ≠ "") →
      (∀ style ∈ styles, IsElement style) → Lists names layersText → Lists styles stylesText →
        (names.length = styles.length →
          pairLayers (some layersText) (some stylesText) = .ok (names.zip styles)) ∧
        (stylesText = "" →
          pairLayers (some layersText) (some stylesText) =
            .ok (names.map fun name => (name, ""))) ∧
        pairLayers (some layersText) none = .ok (names.map fun name => (name, "")) ∧
        (stylesText ≠ "" → names.length ≠ styles.length →
          pairLayers (some layersText) (some stylesText) =
            .error (.layerStyleMismatch names.length styles.length))) ∧
    ∀ layers styles, pairLayers layers styles = .error .missingLayers ↔ Nameless layers := by
  apply And.intro
  · intro names styles layersText stylesText hne hnames hstyles hlayers hlists
    refine ⟨pairLayers_of_length_eq hne hnames hlayers hstyles hlists, ?_, ?_,
      pairLayers_of_length_ne hne hnames hlayers hstyles hlists⟩
    · rintro rfl
      exact (pairLayers_of_named hne hnames hlayers).2 (.inl ⟨rfl, rfl⟩)
    · exact (pairLayers_of_named hne hnames hlayers).2 (.inl ⟨rfl, rfl⟩)
  · intro layers styles
    rw [pairLayers_fails, nameless_iff, Unpaired]
    simp

/-- Blanks of several kinds around two names, one of which has a blank in it, and a style that
is empty. -/
theorem pairLayers_lists_seaIce :
    Lists ["sea ice", "drift"] "sea ice\t,\u00a0drift" ∧ Lists ["", "arrows"] " ,\u3000arrows" ∧
      pairLayers (some "sea ice\t,\u00a0drift") (some " ,\u3000arrows") =
        .ok [("sea ice", ""), ("drift", "arrows")] ∧
      pairLayers (some "sea ice\t,\u00a0drift") (some "arrows") =
        .error (.layerStyleMismatch 2 1) ∧
      pairLayers (some "sea ice,\u00a0") (some "arrows") = .error .missingLayers := by
  have hlayers : Lists ["sea ice", "drift"] "sea ice\t,\u00a0drift" :=
    ⟨["sea ice\t", "\u00a0drift"], .cons ⟨"", "\t", by decide, by decide, rfl⟩
      (.cons ⟨"\u00a0", "", by decide, by decide, rfl⟩ .nil), by decide⟩
  have hstyles : Lists ["", "arrows"] " ,\u3000arrows" :=
    ⟨[" ", "\u3000arrows"], .cons ⟨" ", "", by decide, by decide, rfl⟩
      (.cons ⟨"\u3000", "", by decide, by decide, rfl⟩ .nil), by decide⟩
  have harrows : Lists ["arrows"] "arrows" :=
    ⟨["arrows"], .cons ⟨"", "", by decide, by decide, rfl⟩ .nil, by decide⟩
  have hnames : ∀ name ∈ ["sea ice", "drift"], IsElement name ∧ name ≠ "" := by decide +kernel
  obtain ⟨hzip, _⟩ :=
    pairLayers_lists.1 _ _ _ _ (List.cons_ne_nil _ _) hnames (by decide +kernel) hlayers hstyles
  obtain ⟨_, _, _, hmismatch⟩ :=
    pairLayers_lists.1 _ _ _ _ (List.cons_ne_nil _ _) hnames (by decide +kernel) hlayers harrows
  have hnameless : Nameless (some "sea ice,\u00a0") :=
    .inr ⟨"sea ice,\u00a0", rfl, "\u00a0", by decide +kernel, by decide +kernel⟩
  exact ⟨hlayers, hstyles, hzip rfl, hmismatch (by decide) (by decide),
    (pairLayers_lists.2 _ (some "arrows")).2 hnameless⟩

end Request

end LayerAtlas
