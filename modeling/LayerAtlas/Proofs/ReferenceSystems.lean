import LayerAtlas.Proofs.BuiltLayers
import LayerAtlas.Proofs.Instants
import Mathlib.Data.List.Sort

namespace LayerAtlas

theorem Ascending.antisymm {α : Type} [LT α] [LinearLT α] {xs ys : List α} (hxs : Ascending xs)
    (hys : Ascending ys) (h : xs ⊆ ys) (h' : ys ⊆ xs) : xs = ys := by
  have hirrefl : Std.Irrefl (α := α) (· < ·) := ⟨LinearLT.irrefl⟩
  have hantisymm : Std.Antisymm (α := α) (· < ·) :=
    ⟨fun a _ hab hba => absurd (LinearLT.trans hab hba) (LinearLT.irrefl a)⟩
  exact List.Subset.antisymm_of_pairwise hxs hys h h'

/-- Some identifiers include a reference system, however they are written. -/
def Mentions (ids : List String) (crs : String) : Prop :=
  ∃ id ∈ ids, normalCrs id = normalCrs crs

instance (ids : List String) (crs : String) : Decidable (Mentions ids crs) :=
  inferInstanceAs (Decidable (∃ id ∈ ids, _))

theorem mentions_iff_mem {ids : List String} {crs : String} :
    Mentions ids crs ↔ normalCrs crs ∈ ids.map normalCrs :=
  List.mem_map.symm

theorem not_mentions_nil {crs : String} : ¬ Mentions [] crs := by
  rintro ⟨_, hid, _⟩
  cases hid

theorem mentions_cons {id crs : String} {ids : List String} :
    Mentions (id :: ids) crs ↔ normalCrs id = normalCrs crs ∨ Mentions ids crs := by
  rw [Mentions, List.exists_mem_cons_iff, Mentions]

theorem mentions_congr {ids : List String} {crs crs' : String}
    (h : normalCrs crs = normalCrs crs') :
    Mentions ids crs ↔ Mentions ids crs' := by
  rw [Mentions, h, Mentions]

namespace CrsSet

variable {s t : CrsSet} {references : List Reference} {id crs : String} {ids : List String}

theorem contains_iff : s.contains crs = true ↔ normalCrs crs ∈ s.ids := List.elem_iff

theorem contains_ofReferences_iff :
    (ofReferences references).contains crs = true ↔
      ∃ r ∈ references, r.enabled = true ∧ normalCrs r.id = normalCrs crs := by
  rw [contains_iff, ofReferences, Ascending.mem_ofList, List.mem_map]
  simp only [List.mem_filter, and_assoc]

theorem isKnown_iff : isKnown id references = true ↔
    Mentions (references.map Reference.id) id := by
  rw [isKnown, List.any_eq_true, Mentions]
  simp only [List.mem_map, exists_exists_and_eq_and, decide_eq_true_eq]

theorem contains_insert_iff :
    (s.insert id).contains crs = true ↔
    normalCrs id = normalCrs crs ∨ s.contains crs = true := by
  rw [contains_iff, CrsSet.insert, Ascending.mem_insert, contains_iff, eq_comm]

theorem contains_enable_iff :
    (s.enable id references).contains crs = true ↔
      s.contains crs = true ∨ normalCrs id = normalCrs crs ∧
      Mentions (references.map Reference.id) crs := by
  have hknown (h : normalCrs id = normalCrs crs) :
      isKnown id references = true ↔ Mentions (references.map Reference.id) crs :=
    isKnown_iff.trans (mentions_congr h)
  rw [enable]
  split
  · rename_i hk
    rw [contains_insert_iff, or_comm, and_iff_left_of_imp fun h => (hknown h).1 hk]
  · rename_i hk
    rw [or_iff_left]
    rintro ⟨h, hmentions⟩
    exact hk ((hknown h).2 hmentions)

theorem contains_disable_iff :
    (s.disable id).contains crs = true ↔
    s.contains crs = true ∧ normalCrs id ≠ normalCrs crs := by
  rw [contains_iff, disable, List.mem_filter, decide_eq_true_eq, contains_iff, ne_comm]

theorem contains_enableAll_iff :
    (ids.foldl (fun s id => s.enable id references) s).contains crs = true ↔
      s.contains crs = true ∨ Mentions ids crs ∧
      Mentions (references.map Reference.id) crs := by
  induction ids generalizing s with
  | nil => rw [List.foldl_nil, or_iff_left fun h => not_mentions_nil h.1]
  | cons id ids ih =>
    rw [List.foldl_cons, ih, contains_enable_iff, mentions_cons, or_assoc, or_and_right]

theorem contains_disableAll_iff :
    (ids.foldl disable s).contains crs = true ↔ s.contains crs = true ∧ ¬ Mentions ids crs := by
  induction ids generalizing s with
  | nil => rw [List.foldl_nil, and_iff_left not_mentions_nil]
  | cons id ids ih =>
    rw [List.foldl_cons, ih, contains_disable_iff, mentions_cons, not_or, and_assoc]

theorem ascending_foldl {f : CrsSet → String → CrsSet} (h : Ascending s.ids)
    (hf : ∀ s : CrsSet, Ascending s.ids → ∀ id, Ascending (f s id).ids) (ids : List String) :
    Ascending (ids.foldl f s).ids := by
  induction ids generalizing s with
  | nil => exact h
  | cons id ids ih => exact ih (hf s h id)

theorem ascending_enable (h : Ascending s.ids) (id : String) (references : List Reference) :
    Ascending (s.enable id references).ids := by
  rw [enable]
  split
  · exact Ascending.insert_ascending h
  · exact h

theorem subset_of_contains (hs : s.IsNormal)
    (h : ∀ crs, s.contains crs = true → t.contains crs = true) :
    s.ids ⊆ t.ids := by
  intro id hid
  have hnormal : normalCrs id = id := hs id hid
  have hcontains : t.contains id = true := h id (contains_iff.2 (hnormal.symm ▸ hid))
  rwa [contains_iff, hnormal] at hcontains

theorem ext_contains (hs : s.IsNormal) (ht : t.IsNormal) (hs' : Ascending s.ids)
    (ht' : Ascending t.ids) (h : ∀ crs, s.contains crs = true ↔ t.contains crs = true) :
    s = t := by
  have hids : s.ids = t.ids :=
    Ascending.antisymm hs' ht' (subset_of_contains hs fun crs => (h crs).1)
      (subset_of_contains ht fun crs => (h crs).2)
  cases s
  cases t
  exact congrArg mk hids

end CrsSet

def IsEpsg (crs : String) : Prop := "EPSG:".toList <+: crs.toList

instance (crs : String) : Decidable (IsEpsg crs) := inferInstanceAs (Decidable (_ <+: _))

namespace Definition

/-- The own reference system of the layer, which counts if it is written as a code of the
EPSG. -/
def Owns (d : Definition) (crs : String) : Prop :=
  ∃ own ∈ d.ownCrs, IsEpsg own ∧ normalCrs own = normalCrs crs

instance (d : Definition) (crs : String) : Decidable (d.Owns crs) :=
  inferInstanceAs (Decidable (∃ own ∈ d.ownCrs, _))

/-- A reference system that is enabled for the service, or known to it and enabled for the
layer, and is not disabled for the layer. -/
def Shares (references : List Reference) (d : Definition) (crs : String) : Prop :=
  ¬ Mentions d.crsDisable crs ∧
    ((∃ r ∈ references, r.enabled = true ∧ normalCrs r.id = normalCrs crs) ∨
      Mentions (references.map Reference.id) crs ∧ Mentions d.crsEnable crs)

instance (references : List Reference) (d : Definition) (crs : String) :
    Decidable (d.Shares references crs) :=
  inferInstanceAs (Decidable (_ ∧ _))

end Definition

namespace Layer

variable {references : List Reference} {d : Definition} {crs : String}

def sharedCrs (references : List Reference) (d : Definition) : CrsSet :=
  d.crsDisable.foldl CrsSet.disable
    (d.crsEnable.foldl (fun s id => s.enable id references) (.ofReferences references))

theorem contains_sharedCrs_iff : (sharedCrs references d).contains crs = true ↔
    d.Shares references crs := by
  rw [sharedCrs, CrsSet.contains_disableAll_iff, CrsSet.contains_enableAll_iff,
    CrsSet.contains_ofReferences_iff, and_comm, Definition.Shares,
    and_comm (a := Mentions d.crsEnable crs)]

theorem ascending_sharedCrs : Ascending (sharedCrs references d).ids := by
  apply CrsSet.ascending_foldl
  · apply CrsSet.ascending_foldl (Ascending.ofList_ascending _)
    intro s hs id
    exact CrsSet.ascending_enable hs id references
  · intro s hs id
    exact hs.filter _

theorem crsOf_eq (references : List Reference) (d : Definition) :
    crsOf references d = match d.ownCrs with
      | some own => if IsEpsg own then (sharedCrs references d).insert own
          else sharedCrs references d
      | none => sharedCrs references d := by
  rw [crsOf]
  simp only [List.isPrefixOf_iff_prefix]
  rfl

theorem ascending_crsOf : Ascending (crsOf references d).ids := by
  rw [crsOf_eq]
  split
  · split
    · exact Ascending.insert_ascending ascending_sharedCrs
    · exact ascending_sharedCrs
  · exact ascending_sharedCrs

theorem contains_crsOf_iff : (crsOf references d).contains crs = true ↔
    d.Owns crs ∨ d.Shares references crs := by
  rw [crsOf_eq, Definition.Owns, ← contains_sharedCrs_iff]
  split
  · rename_i own hown
    split
    · rename_i hepsg
      rw [CrsSet.contains_insert_iff]
      simp [hown, hepsg]
    · rename_i hepsg
      simp [hown, hepsg]
  · rename_i hown
    simp [hown]

theorem crsOf_eq_iff {references' : List Reference} {d' : Definition} :
    crsOf references d = crsOf references' d' ↔
      ∀ crs, d.Owns crs ∨ d.Shares references crs ↔
        d'.Owns crs ∨ d'.Shares references' crs := by
  simp only [← contains_crsOf_iff]
  apply Iff.intro
  · intro h crs
    rw [h]
  · intro h
    exact CrsSet.ext_contains (isNormal_crsOf references d) (isNormal_crsOf references' d')
      ascending_crsOf
      ascending_crsOf h

variable {source : Source} {kind : LayerKind} {metadata : Metadata} {now : Instant} {l : Layer}

theorem crs_of_build (h : build references source d kind metadata now = .ok l) :
    l.crs = crsOf references d := by
  obtain ⟨_, _, _, _, rfl⟩ := build_eq_ok.1 h
  rfl

/-- A built layer accepts the reference system that it owns and those that it shares. The lists
of a definition count only by the systems that they mention; what is disabled is accepted only
where it is owned. -/
theorem acceptsCrs_iff (h : build references source d kind metadata now = .ok l) :
    (∀ crs, l.acceptsCrs crs = true ↔ d.Owns crs ∨ d.Shares references crs) ∧
      (∀ source' d' kind' metadata' now' l', build references source' d' kind' metadata'
        now' = .ok l' →
        d'.ownCrs = d.ownCrs → (∀ crs, Mentions d'.crsEnable crs ↔ Mentions d.crsEnable crs) →
        (∀ crs, Mentions d'.crsDisable crs ↔ Mentions d.crsDisable crs) → l'.crs = l.crs) ∧
      ∀ crs, Mentions d.crsDisable crs → (l.acceptsCrs crs = true ↔ d.Owns crs) := by
  have haccepts : ∀ crs, l.acceptsCrs crs = true ↔ d.Owns crs ∨ d.Shares references crs := by
    intro crs
    rw [acceptsCrs, crs_of_build h, contains_crsOf_iff]
  refine ⟨haccepts, ?_, ?_⟩
  · intro source' d' kind' metadata' now' l' h' hown henable hdisable
    rw [crs_of_build h, crs_of_build h', crsOf_eq_iff]
    intro crs
    simp only [Definition.Owns, Definition.Shares, hown, henable, hdisable]
  · intro crs hdisabled
    rw [haccepts, or_iff_left]
    rintro ⟨hnot, _⟩
    exact hnot hdisabled

end Layer

namespace Relief

def noon : Instant := .ofFirstDay 43200 0

def source : Source where
  customer := "north"
  nameSpace := "north"
  stem := "relief"
  path := "relief.json"
  modified := none

def metadata : Metadata where
  bbox := .world
  times := .none
  levels := none

def definition : Definition where
  layerType := some "map"
  ownCrs := some "EPSG:3067"
  crsEnable := ["epsg:3035 ", "EPSG:9999"]
  crsDisable := ["EPSG:3857", "epsg:3067"]

def reordered : Definition :=
  { definition with
    crsEnable := ["EPSG:9999", "EPSG:3035", "epsg:3035"]
    crsDisable := ["EPSG:3067", "EPSG:3857", " EPSG:3067"] }

theorem build_map (references : List Reference) (d : Definition) :
    Layer.build references source d .map metadata noon =
      .ok (.assemble references source d .map metadata noon none) := by
  have hbbox : metadata.bbox.isValid = true := by
    change BoundingBox.world.isValid = true
    decide
  exact Layer.build_eq_ok.2 ⟨hbbox, none, rfl, .inr (.inl rfl), rfl⟩

theorem map_crsEnable :
    definition.crsEnable.map normalCrs = ["EPSG:3035", "EPSG:9999"] := by decide +kernel

theorem map_crsDisable :
    definition.crsDisable.map normalCrs = ["EPSG:3857", "EPSG:3067"] := by decide +kernel

theorem mentions_crsEnable (crs : String) :
    Mentions reordered.crsEnable crs ↔ Mentions definition.crsEnable crs := by
  have hreordered :
      reordered.crsEnable.map normalCrs = ["EPSG:9999", "EPSG:3035", "EPSG:3035"] := by
    decide +kernel
  rw [mentions_iff_mem, mentions_iff_mem, hreordered, map_crsEnable]
  simp [or_comm]

theorem mentions_crsDisable (crs : String) :
    Mentions reordered.crsDisable crs ↔ Mentions definition.crsDisable crs := by
  have hreordered :
      reordered.crsDisable.map normalCrs = ["EPSG:3067", "EPSG:3857", "EPSG:3067"] := by
    decide +kernel
  rw [mentions_iff_mem, mentions_iff_mem, hreordered, map_crsDisable]
  simp [or_comm]

theorem shares : definition.Shares Reference.defaults "EPSG:3035" := by
  have hnormal : normalCrs "EPSG:3035" = "EPSG:3035" := by decide +kernel
  have hdisable : ¬ Mentions definition.crsDisable "EPSG:3035" := by
    rw [mentions_iff_mem, map_crsDisable, hnormal]
    decide
  have henable : Mentions definition.crsEnable "EPSG:3035" := by
    rw [mentions_iff_mem, map_crsEnable, hnormal]
    decide
  exact ⟨hdisable, .inr ⟨⟨"EPSG:3035", by decide, rfl⟩, henable⟩⟩

theorem not_owns : ¬ definition.Owns "EPSG:3857" := by
  rintro ⟨_, ⟨⟩, _, hnormal⟩
  exact absurd hnormal (by decide +kernel)

end Relief

open Relief in
/-- The map accepts its own reference system although it disables it, in whatever order its
lists stand. -/
theorem Layer.acceptsCrs_relief :
    ∃ l l', build Reference.defaults source definition .map metadata noon = .ok l ∧
      build Reference.defaults source reordered .map metadata noon = .ok l' ∧ l'.crs = l.crs ∧
      l.acceptsCrs "EPSG:3067" = true ∧ l.acceptsCrs "EPSG:3035" = true ∧
      Mentions definition.crsDisable "EPSG:3857" ∧ l.acceptsCrs "EPSG:3857" = false := by
  obtain ⟨haccepts, hsame, hdisabled⟩ :=
    acceptsCrs_iff (build_map Reference.defaults definition)
  have howns : definition.Owns "EPSG:3067" := ⟨"EPSG:3067", rfl, by decide, rfl⟩
  have hmentions : Mentions definition.crsDisable "EPSG:3857" :=
    ⟨"EPSG:3857", List.mem_cons_self, rfl⟩
  refine ⟨_, _, build_map _ definition, build_map _ reordered, ?_, (haccepts _).2 (.inl howns),
    (haccepts _).2 (.inr shares), hmentions, ?_⟩
  · exact hsame _ _ _ _ _ _ (build_map _ reordered) rfl mentions_crsEnable mentions_crsDisable
  · exact Bool.eq_false_iff.2 fun h => not_owns ((hdisabled _ hmentions).1 h)

end LayerAtlas
