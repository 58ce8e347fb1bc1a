import LayerAtlas.Build
import LayerAtlas.Proofs.NormalForm
import LayerAtlas.Proofs.Checks

namespace LayerAtlas

def TimeDimension.WellFormed : TimeDimension → Prop
  | steps s => s.times ≠ [] ∧ Ascending s.times
  | intervals is => is.items ≠ [] ∧ ∀ i ∈ is.items, i.start ≤ i.stop ∧ 0 < i.minutes

theorem TimeDimension.wellFormed (d : TimeDimension) : d.WellFormed := by
  cases d with
  | steps s => exact ⟨s.nonempty, s.ascending⟩
  | intervals is => exact ⟨is.nonempty, fun i _ => ⟨i.ordered, i.step_pos⟩⟩

def TimeAxis.dimensions (a : TimeAxis) : List TimeDimension :=
  match a.generations with
  | .single d => [d]
  | .runs items _ _ => items.map Prod.snd

namespace Layer

/-- What every published layer satisfies. -/
structure WellFormed (l : Layer) : Prop where
  bbox : l.bbox.minX < l.bbox.maxX ∧ l.bbox.minY < l.bbox.maxY
  styles : l.styles ≠ []
  crs : l.crs.IsNormal
  elevation : ∀ e, l.elevation = some e → e.values ≠ [] ∧ e.levelType ≠ .other ∧ e.values ≠ [0]
  timed : l.time.isSome = true ∨ l.kind.mayBeTimeless = true ∨ l.timeDisabled = true
  endsAtPresent : ∀ a, l.time = some a → (a.endsAtPresent = true ↔ l.kind = .stationObservation)
  dimensions : ∀ a, l.time = some a → a.dimensions ≠ [] ∧ ∀ d ∈ a.dimensions, d.WellFormed

theorem isNormal_crsOf (references : List Reference) (d : Definition) :
    (crsOf references d).IsNormal := by
  have hkept : (d.crsDisable.foldl CrsSet.disable
      (d.crsEnable.foldl (fun s id => s.enable id references)
      (.ofReferences references))).IsNormal := by
    refine CrsSet.IsNormal.foldl ?_ (fun s hs id => hs.disable id) _
    exact (CrsSet.isNormal_ofReferences references).foldl
      (fun s hs id => hs.enable id references) _
  rw [crsOf]
  split
  · split
    · exact hkept.insert _
    · exact hkept
  · exact hkept

theorem stylesOf_ne_nil (name : String) (d : Definition) : stylesOf name d ≠ [] := by
  rw [stylesOf]
  split
  · exact List.cons_ne_nil _ _
  · split
    · exact List.cons_ne_nil _ _
    · assumption

theorem isPublished_of_elevationOf {levels : Option (LevelType × List Int)} {e : Elevation}
    (h : elevationOf levels = some e) : e.levelType ≠ .other ∧ e.values ≠ [0] := by
  have hpublished := (Option.filter_eq_some_iff.1 h).2
  simp only [Elevation.isPublished, Bool.and_eq_true, decide_eq_true_eq, ne_eq] at hpublished
  exact ⟨hpublished.2, hpublished.1⟩

variable {kind : LayerKind} {d : Definition}

theorem axisOf_eq_ok {times : ReportedTimes} {time : Option TimeAxis} :
    axisOf kind d times = .ok time ↔ ∃ axis, dimensionsOf kind d times = .ok axis ∧
      time = axis.map fun a => { a with endsAtPresent := kind = .stationObservation } := by
  rw [axisOf, Checks.map_eq_ok]
  simp only [eq_comm]

theorem endsAtPresent_of_axisOf {times : ReportedTimes} {a : TimeAxis}
    (h : axisOf kind d times = .ok (some a)) :
    a.endsAtPresent = true ↔ kind = .stationObservation := by
  obtain ⟨axis, _, htime⟩ := axisOf_eq_ok.1 h
  obtain ⟨b, _, rfl⟩ := Option.map_eq_some_iff.1 htime.symm
  simp

variable {references : List Reference} {source : Source} {metadata : Metadata}
  {now : Instant} {l : Layer}

/-- A layer is built if it has an extent, and times where its kind needs them. -/
theorem build_eq_ok :
    build references source d kind metadata now = .ok l ↔
      metadata.bbox.isValid = true ∧ ∃ time, axisOf kind d metadata.times = .ok time ∧
        (time.isSome = true ∨ kind.mayBeTimeless = true ∨ d.disableTime = true) ∧
        assemble references source d kind metadata now time = l := by
  rw [build]
  cases hbbox : metadata.bbox.isValid with
  | false => simp
  | true =>
    cases haxis : axisOf kind d metadata.times with
    | error e => simp
    | ok time =>
      cases time with
      | some a => simp
      | none =>
        cases kind.mayBeTimeless with
        | true => simp
        | false => cases d.disableTime <;> simp

theorem create_eq_ok {settings : Settings}
    {probe : LayerKind → Definition → Except ProbeError Metadata} :
    create settings probe now source = .ok l ↔
      ∃ d kind metadata, definitionOf settings source = .ok (d, kind) ∧
        probe kind d = .ok metadata ∧
        build settings.references source d kind metadata now = .ok l := by
  rw [create]
  cases definitionOf settings source with
  | error e => simp
  | ok found =>
    obtain ⟨d, kind⟩ := found
    cases hprobe : probe kind d with
    | error e => simp [hprobe]
    | ok metadata => simp [hprobe]

theorem exists_text_of_definitionOf {settings : Settings}
    (h : definitionOf settings source = .ok (d, kind)) :
    ∃ text, source.text = some text ∧ Definition.ofText? text = some d := by
  rw [definitionOf] at h
  cases htext : source.text with
  | none =>
    rw [htext] at h
    cases h
  | some text =>
    simp only [htext] at h
    cases hread : Definition.ofText? text with
    | none =>
      rw [hread] at h
      cases h
    | some d' =>
      rw [hread] at h
      obtain ⟨kind', _, heq⟩ := Checks.map_eq_ok.1 h
      cases heq
      exact ⟨text, rfl, hread⟩

theorem timeAxis?_of_build (h : build references source d kind metadata now = .ok l)
    (htemporal : l.isTemporal = true) :
    ∃ a, dimensionsOf kind d metadata.times = .ok (some a) ∧
      l.timeAxis? = some { a with endsAtPresent := kind = .stationObservation } := by
  obtain ⟨_, time, haxis, _, rfl⟩ := build_eq_ok.1 h
  obtain ⟨axis, hdimensions, rfl⟩ := axisOf_eq_ok.1 haxis
  obtain ⟨b, hb⟩ := Option.isSome_iff_exists.1 htemporal
  obtain ⟨_, htime⟩ := Option.ite_none_left_eq_some.1 hb
  obtain ⟨a, rfl, rfl⟩ := Option.map_eq_some_iff.1 htime
  exact ⟨a, hdimensions, hb⟩

theorem build_wellFormed (h : build references source d kind metadata now = .ok l) :
    l.WellFormed := by
  obtain ⟨hbbox, time, haxis, htimed, rfl⟩ := build_eq_ok.1 h
  constructor
  · exact BoundingBox.isValid_iff.1 hbbox
  · exact stylesOf_ne_nil _ d
  · exact isNormal_crsOf references d
  · intro e he
    exact ⟨e.nonempty, isPublished_of_elevationOf he⟩
  · exact htimed
  · rintro a rfl
    exact endsAtPresent_of_axisOf haxis
  · intro a _
    refine ⟨?_, fun d _ => d.wellFormed⟩
    rw [TimeAxis.dimensions]
    split
    · exact List.cons_ne_nil _ _
    · rename_i nonempty _
      exact mt List.map_eq_nil_iff.1 nonempty

theorem create_wellFormed {settings : Settings}
    {probe : LayerKind → Definition → Except ProbeError Metadata}
    (h : create settings probe now source = .ok l) : l.WellFormed := by
  obtain ⟨_, _, _, _, _, hbuild⟩ := create_eq_ok.1 h
  exact build_wellFormed hbuild

theorem productFile_of_create {settings : Settings}
    {probe : LayerKind → Definition → Except ProbeError Metadata}
    (h : create settings probe now source = .ok l) : l.productFile = source.path := by
  obtain ⟨_, _, _, _, _, hbuild⟩ := create_eq_ok.1 h
  obtain ⟨_, _, _, _, rfl⟩ := build_eq_ok.1 hbuild
  rfl

theorem modified_of_create {settings : Settings}
    {probe : LayerKind → Definition → Except ProbeError Metadata}
    (h : create settings probe now source = .ok l) : l.modified = source.modified := by
  obtain ⟨_, _, _, _, _, hbuild⟩ := create_eq_ok.1 h
  obtain ⟨_, _, _, _, rfl⟩ := build_eq_ok.1 hbuild
  rfl

theorem probedAt_of_create {settings : Settings}
    {probe : LayerKind → Definition → Except ProbeError Metadata}
    (h : create settings probe now source = .ok l) : l.probedAt = now := by
  obtain ⟨_, _, _, _, _, hbuild⟩ := create_eq_ok.1 h
  obtain ⟨_, _, _, _, rfl⟩ := build_eq_ok.1 hbuild
  rfl

theorem create_later {settings : Settings}
    {probe : LayerKind → Definition → Except ProbeError Metadata}
    (h : create settings probe now source = .ok l) (later : Instant) :
    create settings probe later source = .ok { l with probedAt := later } := by
  obtain ⟨d, kind, metadata, hdefinition, hprobe, hbuild⟩ := create_eq_ok.1 h
  obtain ⟨hbbox, time, haxis, htimed, rfl⟩ := build_eq_ok.1 hbuild
  exact create_eq_ok.2
    ⟨d, kind, metadata, hdefinition, hprobe, build_eq_ok.2 ⟨hbbox, time, haxis, htimed, rfl⟩⟩

end Layer

end LayerAtlas
