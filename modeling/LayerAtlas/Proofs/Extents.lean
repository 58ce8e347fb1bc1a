import LayerAtlas.Proofs.Dimensions
import LayerAtlas.Proofs.Durations
import LayerAtlas.Proofs.Expansion
import LayerAtlas.Proofs.LastInstants
import LayerAtlas.Proofs.PrintedValues
import LayerAtlas.Proofs.Timestamps

namespace LayerAtlas

open Text Instant

theorem TimeSpec.readList_intercalate {texts : List String} (hne : texts ≠ [])
    (hfilled : "" ∉ texts)
    (hmarks : ∀ text ∈ texts, ∀ c ∈ text.toList, c ≠ ',' ∧ isBlank c = false) :
    readList (String.intercalate "," texts) =
      texts.mapM
        (if '/' ∈ (String.intercalate "," texts).toList then readInterval else readSingle) := by
  have hparts : commaParts (String.intercalate "," texts) = texts := by
    apply commaParts_intercalate hne
    intro text htext hcomma
    exact (hmarks text htext _ hcomma).1 rfl
  have hjoined : String.intercalate "," texts ≠ "" := by
    intro hempty
    have hblank : commaParts "" = [""] := commaParts_of_not_mem List.not_mem_nil
    rw [hempty, hblank] at hparts
    exact hfilled (hparts ▸ List.mem_singleton_self "")
  have htrim : trim (String.intercalate "," texts) = String.intercalate "," texts := by
    apply trim_of_not_blank
    intro c hc
    rcases mem_toList_intercalate hc with rfl | ⟨text, htext, hmem⟩
    · decide
    · exact (hmarks text htext c hmem).2
  rw [readList, htrim, if_neg hjoined]
  change (commaParts _).mapM _ = _
  rw [hparts]

theorem TimeSpec.readList_timestamps {ts : List Instant} (hne : ts ≠ []) :
    readList (String.intercalate "," (ts.map Timestamp.write)) =
      .ok (ts.map fun t => .single t.truncate) := by
  have hslash : '/' ∉ (String.intercalate "," (ts.map Timestamp.write)).toList := by
    intro h
    obtain h | ⟨text, htext, hmem⟩ := mem_toList_intercalate h
    · cases h
    · obtain ⟨t, _, rfl⟩ := List.mem_map.1 htext
      cases Timestamp.isMark_of_mem_write hmem
  have hfilled : "" ∉ ts.map Timestamp.write := by
    intro hempty
    obtain ⟨t, _, ht⟩ := List.mem_map.1 hempty
    exact Timestamp.write_ne_empty t ht
  have hmarks :
      ∀ text ∈ ts.map Timestamp.write, ∀ c ∈ text.toList, c ≠ ',' ∧ isBlank c = false := by
    intro text htext c hc
    obtain ⟨t, _, rfl⟩ := List.mem_map.1 htext
    have hmark := Timestamp.isMark_of_mem_write hc
    refine ⟨?_, Timestamp.isBlank_of_isMark hmark⟩
    rintro rfl
    cases hmark
  rw [readList_intercalate (List.map_eq_nil_iff.not.2 hne) hfilled hmarks, if_neg hslash,
    Checks.mapM_eq_ok]
  refine List.forall₂_map_left_iff.2
    (List.forall₂_map_right_iff.2 (List.forall₂_same.2 fun t _ => ?_))
  rw [readSingle, TimePoint.read_write]
  rfl

namespace TimeInterval

variable {i : TimeInterval} {c : Char}

def spec (i : TimeInterval) : TimeSpec := .interval (.at i.start) (.at i.stop) i.minutes

def fields (i : TimeInterval) : List (List Char) :=
  [(Timestamp.write i.start).toList, (Timestamp.write i.stop).toList,
    (Duration.write i.minutes).toList]

theorem toList_extent (i : TimeInterval) : i.extent.toList = ['/'].intercalate i.fields := by
  simp [extent, fields]

theorem isMark_of_mem_fields {f : List Char} (hf : f ∈ i.fields) (h : c ∈ f) :
    Timestamp.isMark c = true ∨ Duration.isMark c = true := by
  simp only [fields, List.mem_cons, List.not_mem_nil, or_false] at hf
  rcases hf with hf | hf | hf
  · exact .inl (Timestamp.isMark_of_mem_write (hf ▸ h))
  · exact .inl (Timestamp.isMark_of_mem_write (hf ▸ h))
  · exact .inr (Duration.isMark_of_mem_write i.step_pos (hf ▸ h))

theorem mem_extent (h : c ∈ i.extent.toList) :
    c = '/' ∨ Timestamp.isMark c = true ∨ Duration.isMark c = true := by
  rw [toList_extent] at h
  obtain hslash | ⟨f, hf, hmem⟩ := mem_intercalate h
  · exact .inl hslash
  · exact .inr (isMark_of_mem_fields hf hmem)

theorem extent_ne_empty (i : TimeInterval) : i.extent ≠ "" := by
  intro hempty
  have hslash : '/' ∈ i.extent.toList := by
    rw [toList_extent, fields, List.intercalate_cons_cons]
    simp
  rw [hempty] at hslash
  cases hslash

/-- What the extent of an interval says, which is in whole seconds. -/
def writtenSpec (i : TimeInterval) : TimeSpec :=
  .interval (.at i.start.truncate) (.at i.stop.truncate) i.minutes

theorem writtenSpec_of_nanos (hstart : i.start.nanos = 0) (hstop : i.stop.nanos = 0) :
    i.writtenSpec = i.spec := by
  rw [writtenSpec, truncate_of_nanos hstart, truncate_of_nanos hstop]
  rfl

theorem readInterval_extent (i : TimeInterval) :
    TimeSpec.readInterval i.extent = if i.minutes ≤ Duration.maxMinutes then .ok i.writtenSpec
      else .error (.malformedDuration (Duration.write i.minutes)) := by
  have hsplit : i.extent.toList.splitOn '/' = i.fields := by
    rw [toList_extent]
    refine List.splitOn_intercalate '/' ?_ (by simp [fields])
    intro f hf hmem
    rcases isMark_of_mem_fields hf hmem with h | h
    · cases h
    · cases h
  have htrim : trim (Duration.write i.minutes) = Duration.write i.minutes :=
    trim_of_not_blank fun c hc =>
      Duration.isBlank_of_isMark (Duration.isMark_of_mem_write i.step_pos hc)
  have horder : TimeSpec.inOrder (.at i.start.truncate) (.at i.stop.truncate) = true :=
    decide_eq_true (truncate_le_truncate i.ordered)
  have hminutes : ((i.minutes.toNat : Nat) : Int) = i.minutes :=
    Int.toNat_of_nonneg (Int.le_of_lt i.step_pos)
  rw [TimeSpec.readInterval, hsplit]
  simp only [fields, List.map_cons, List.map_nil, String.ofList_toList,
    TimePoint.read_write, htrim, Duration.read_write i.step_pos]
  by_cases hfits : i.minutes ≤ Duration.maxMinutes
  · rw [if_pos hfits, if_pos hfits]
    change (if TimeSpec.inOrder (.at i.start.truncate) (.at i.stop.truncate) = true then _
      else _) = _
    rw [if_pos horder, hminutes]
    rfl
  · rw [if_neg hfits, if_neg hfits]
    rfl

theorem readList_extents {items : List TimeInterval} (hne : items ≠ []) :
    TimeSpec.readList (String.intercalate "," (items.map extent)) =
      (items.map extent).mapM TimeSpec.readInterval := by
  have hslash : '/' ∈ (String.intercalate "," (items.map extent)).toList := by
    obtain ⟨i, hi⟩ := List.exists_mem_of_ne_nil _ hne
    apply mem_toList_intercalate_of_mem (List.mem_map_of_mem hi)
    rw [toList_extent, fields, List.intercalate_cons_cons]
    simp
  have hfilled : "" ∉ items.map extent := by
    intro hempty
    obtain ⟨i, _, hi⟩ := List.mem_map.1 hempty
    exact i.extent_ne_empty hi
  have hmarks : ∀ text ∈ items.map extent, ∀ c ∈ text.toList, c ≠ ',' ∧ isBlank c = false := by
    intro text htext c hc
    obtain ⟨i, _, rfl⟩ := List.mem_map.1 htext
    rcases mem_extent hc with rfl | hmark | hmark
    · decide
    · refine ⟨?_, Timestamp.isBlank_of_isMark hmark⟩
      rintro rfl
      cases hmark
    · refine ⟨?_, Duration.isBlank_of_isMark hmark⟩
      rintro rfl
      cases hmark
  rw [TimeSpec.readList_intercalate (List.map_eq_nil_iff.not.2 hne) hfilled hmarks,
    if_pos hslash]

theorem stepFits_of_le_maxStep (h : i.minutes ≤ TimeSpec.maxStep) : i.StepFits := by
  rw [TimeSpec.maxStep] at h
  rw [StepFits, maxInt64]
  omega

theorem exists_expands_spec (hstart : ¬ i.start.IsLeap) (hstep : i.minutes ≤ TimeSpec.maxStep) :
    ∃ ts, (∀ now, TimeSpec.Expands now i.spec ts) ∧
      ∀ t, t ∈ ts ↔ ¬ t.IsLeap ∧ i.contains none t = some true := by
  obtain ⟨ts, hexpands, hmem⟩ :=
    TimeSpec.exists_expands_interval i.step_pos hstep hstart i.ordered
  refine ⟨ts, hexpands, ?_⟩
  intro t
  have hfits := stepFits_of_le_maxStep hstep
  rw [hmem]
  apply Iff.intro
  · rintro ⟨hreaches, hle⟩
    have ht : ¬ t.IsLeap := not_isLeap_of_nanos hstart ((reaches_iff hstart).1 hreaches).1
    exact ⟨ht, (contains_iff hstart ht).2 ⟨hfits, hreaches, hle, by rintro l ⟨⟩⟩⟩
  · rintro ⟨ht, hcontains⟩
    obtain ⟨_, hreaches, hle, _⟩ := (contains_iff hstart ht).1 hcontains
    exact ⟨hreaches, hle⟩

end TimeInterval

namespace TimeDimension

variable {d : TimeDimension}

/-- All steps are short enough to move an instant by. -/
def StepsFit : TimeDimension → Prop
  | steps _ => True
  | intervals is => ∀ i ∈ is.items, i.minutes ≤ TimeSpec.maxStep

theorem StepsFit.fitsBy (h : d.StepsFit) (limit : Option Instant) : d.FitsBy limit := by
  cases d with
  | steps s => trivial
  | intervals is => exact fun i hi _ => TimeInterval.stepFits_of_le_maxStep (h i hi)

def specs : TimeDimension → List TimeSpec
  | steps s => s.times.map .single
  | intervals is => is.items.map TimeInterval.spec

def writtenSpecs : TimeDimension → List TimeSpec
  | steps s => s.times.map fun t => .single t.truncate
  | intervals is => is.items.map TimeInterval.writtenSpec

theorem eq_writtenSpecs {specs : List TimeSpec} (h : TimeSpec.readList d.extent = .ok specs) :
    specs = d.writtenSpecs := by
  cases d with
  | steps s =>
    rw [extent, TimeSpec.readList_timestamps s.nonempty] at h
    cases h
    rfl
  | intervals is =>
    rw [extent, TimeInterval.readList_extents is.nonempty] at h
    refine Checks.eq_map_of_forall₂ ?_ (List.forall₂_map_left_iff.1 (Checks.mapM_eq_ok.1 h))
    intro i spec hspec
    rw [i.readInterval_extent] at hspec
    split at hspec
    · cases hspec
      rfl
    · cases hspec

theorem readList_extent (hwhole : ∀ t ∈ d.instants, t.nanos = 0) (hfit : d.StepsFit) :
    TimeSpec.readList d.extent = .ok d.specs := by
  cases d with
  | steps s =>
    rw [extent, TimeSpec.readList_timestamps s.nonempty, specs]
    refine congrArg Except.ok (List.map_congr_left fun t ht => ?_)
    rw [truncate_of_nanos (hwhole t ht)]
  | intervals is =>
    rw [extent, TimeInterval.readList_extents is.nonempty, Checks.mapM_eq_ok]
    refine List.forall₂_map_left_iff.2
      (List.forall₂_map_right_iff.2 (List.forall₂_same.2 fun i hi => ?_))
    obtain ⟨hstart, hstop⟩ := mem_instants_of_mem_items hi
    rw [i.readInterval_extent, if_pos (Int.le_trans (hfit i hi) (by decide)),
      TimeInterval.writtenSpec_of_nanos (hwhole _ hstart) (hwhole _ hstop)]

/-- The parts of an extent stand for the instants of the dimension together. -/
theorem exists_expands_specs (hleap : ∀ t ∈ d.instants, ¬ t.IsLeap) (hfit : d.StepsFit) :
    ∃ tss, (∀ now, List.Forall₂ (TimeSpec.Expands now) d.specs tss) ∧
      ∀ t, t ∈ tss.flatten ↔ ¬ t.IsLeap ∧ d.contains none t = some true := by
  cases d with
  | steps s =>
    refine ⟨s.times.map fun t => [t], ?_, ?_⟩
    · intro now
      exact List.forall₂_map_left_iff.2
        (List.forall₂_map_right_iff.2
          (List.forall₂_same.2 fun t _ => TimeSpec.expands_single now t))
    · intro t
      have hcontains : (steps s).contains none t = some true ↔ t ∈ s.times := by
        rw [contains_steps_iff]
        simp
      rw [hcontains]
      simp only [List.mem_flatten, List.mem_map, exists_exists_and_eq_and, List.mem_singleton,
        exists_eq_right']
      exact (and_iff_right_of_imp (hleap t)).symm
  | intervals is =>
    have hall : ∀ i ∈ is.items, ∃ ts, (∀ now, TimeSpec.Expands now i.spec ts) ∧
        ∀ t, t ∈ ts ↔ ¬ t.IsLeap ∧ i.contains none t = some true := by
      intro i hi
      exact TimeInterval.exists_expands_spec
        (hleap _ (mem_instants_of_mem_items hi).1) (hfit i hi)
    obtain ⟨tss, htss⟩ := Checks.exists_forall₂ hall
    refine ⟨tss, ?_, ?_⟩
    · intro now
      exact List.forall₂_map_left_iff.2 (htss.imp fun i ts h => h.1 now)
    · intro t
      rw [contains_intervals_iff (hfit.fitsBy none), List.mem_flatten]
      apply Iff.intro
      · rintro ⟨ts, hts, ht⟩
        obtain ⟨i, hi, _, hmem⟩ := Checks.forall₂_exists htss.flip hts
        obtain ⟨hnot, hcontains⟩ := (hmem t).1 ht
        exact ⟨hnot, i, hi, hcontains⟩
      · rintro ⟨hnot, i, hi, hcontains⟩
        obtain ⟨ts, hts, _, hmem⟩ := Checks.forall₂_exists htss hi
        exact ⟨ts, hts, (hmem t).2 ⟨hnot, hcontains⟩⟩

/-- A published extent of whole seconds is read, and stands for the instants of its dimension:
it is expanded to a list of them, at any time, unless the list is too long. -/
theorem extent_denotes (hwhole : ∀ t ∈ d.instants, t.nanos = 0) (hfit : d.StepsFit) :
    ∃ specs ts, TimeSpec.readList d.extent = .ok specs ∧
      (∀ t, d.contains none t ≠ none) ∧
      (∀ t, t ∈ ts ↔ ¬ t.IsLeap ∧ d.contains none t = some true) ∧
      ∀ now, TimeSpec.expandAll now specs =
        if ts.length ≤ maxTimeValues then .ok ts
        else .error (.tooManyValues maxTimeValues) := by
  have hleap : ∀ t ∈ d.instants, ¬ t.IsLeap := by
    intro t ht
    rw [IsLeap, hwhole t ht]
    decide
  obtain ⟨tss, hexpands, hmem⟩ := exists_expands_specs hleap hfit
  refine ⟨d.specs, tss.flatten, readList_extent hwhole hfit, ?_, hmem, ?_⟩
  · intro t
    exact contains_ne_none_of_fitsBy (hfit.fitsBy none)
  · intro now
    exact TimeSpec.expandAllWithin_of_expands (hexpands now) maxTimeValues

/-- Every hour from midnight to half past two, and every half hour from two to three o'clock. -/
def overlappingHours : Intervals where
  items :=
    [.hourly 9000,
      { start := ofFirstDay 7200 0
        stop := ofFirstDay 10800 0
        minutes := 30
        ordered := by decide
        step_pos := by decide }]
  nonempty := List.cons_ne_nil _ _

/-- Half past two is no step of the first interval, but it is one of the second. -/
theorem extent_denotes_overlappingHours :
    (∀ t ∈ (intervals overlappingHours).instants, t.nanos = 0) ∧
    (intervals overlappingHours).StepsFit ∧
      ∃ specs ts, TimeSpec.readList (intervals overlappingHours).extent = .ok specs ∧
        ofFirstDay 9000 0 ∈ ts ∧ ofFirstDay 9060 0 ∉ ts ∧
        ∀ now, TimeSpec.expandAll now specs =
          if ts.length ≤ maxTimeValues then .ok ts
          else .error (.tooManyValues maxTimeValues) := by
  have hwhole : ∀ t ∈ (intervals overlappingHours).instants, t.nanos = 0 := by decide
  have hfit : (intervals overlappingHours).StepsFit := by
    change ∀ i ∈ overlappingHours.items, i.minutes ≤ TimeSpec.maxStep
    decide
  obtain ⟨specs, ts, hread, _, hmem, hexpand⟩ := extent_denotes hwhole hfit
  refine ⟨hwhole, hfit, specs, ts, hread, (hmem _).2 ⟨by decide, by decide⟩, ?_, hexpand⟩
  intro h
  have hcontains := ((hmem _).1 h).2
  revert hcontains
  decide

end TimeDimension

end LayerAtlas
