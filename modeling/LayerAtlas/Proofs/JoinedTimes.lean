import LayerAtlas.Proofs.Checks
import LayerAtlas.Proofs.PrintedValues

namespace LayerAtlas

open Text Checks

/-- What is wrong with a time, but for the text that it is wrong with. -/
inductive TimeError.Kind where
  | invalidFormat
  | malformedDuration
  | invalidInterval
  | tooManyValues
  deriving DecidableEq

def TimeError.kind : TimeError → Kind
  | invalidFormat _ => .invalidFormat
  | malformedDuration _ => .malformedDuration
  | invalidInterval _ => .invalidInterval
  | tooManyValues _ => .tooManyValues

theorem TimePoint.read_trim (text : String) : read (trim text) = read text := by
  rw [read, trim_trim]
  rfl

namespace TimeSpec

variable {text : String} {texts : List String}

theorem readSingle_trim (text : String) : readSingle (trim text) = readSingle text := by
  rw [readSingle, TimePoint.read_trim]
  rfl

def slashParts (text : String) : List String := (text.toList.splitOn '/').map String.ofList

theorem readInterval_of_slashParts {start stop step : String}
    (h : slashParts text = [start, stop, step]) :
    readInterval text = (do
      let start ← TimePoint.read start
      let stop ← TimePoint.read stop
      let minutes ← Duration.read (trim step)
      if inOrder start stop then .ok (.interval start stop minutes)
      else .error (.invalidInterval text)) := by
  rw [slashParts] at h
  rw [readInterval, h]

theorem readInterval_of_length_ne (h : (slashParts text).length ≠ 3) :
    readInterval text = .error (.invalidFormat text) := by
  rw [readInterval]
  split
  · rename_i start stop step hparts
    rw [slashParts, hparts] at h
    exact absurd rfl h
  · rfl

/-- Blanks around an interval are blanks around its start and its step, which are trimmed
themselves. -/
theorem kind_readInterval_trim (text : String) :
    (readInterval (trim text)).mapError TimeError.kind =
      (readInterval text).mapError TimeError.kind := by
  have hparts : (slashParts (trim text)).map trim = (slashParts text).map trim :=
    map_trim_splitOn_trim (by decide) text
  have hlength : (slashParts (trim text)).length = (slashParts text).length := by
    simpa using congrArg List.length hparts
  by_cases h : (slashParts text).length = 3
  · obtain ⟨start, stop, step, hs⟩ := List.length_eq_three.1 h
    obtain ⟨start', stop', step', hs'⟩ := List.length_eq_three.1 (hlength.trans h)
    rw [hs, hs'] at hparts
    simp only [List.map_cons, List.map_nil, List.cons.injEq, and_true] at hparts
    obtain ⟨hstart, hstop, hstep⟩ := hparts
    rw [readInterval_of_slashParts hs, readInterval_of_slashParts hs',
      ← TimePoint.read_trim start, ← TimePoint.read_trim start', ← TimePoint.read_trim stop,
      ← TimePoint.read_trim stop', hstart, hstop, hstep]
    simp only [mapError_bind]
    apply bind_congr_ok
    intro start _
    apply bind_congr_ok
    intro stop _
    apply bind_congr_ok
    intro minutes _
    split
    · rfl
    · rfl
  · rw [readInterval_of_length_ne h, readInterval_of_length_ne (hlength.trans_ne h)]
    rfl

/-- How the elements of a text are read: as intervals if there is a slash anywhere. -/
def readerOf (text : String) : String → Except TimeError TimeSpec :=
  if '/' ∈ text.toList then readInterval else readSingle

theorem readerOf_trim (text : String) : readerOf (trim text) = readerOf text := by
  have hslash : '/' ∈ (trim text).toList ↔ '/' ∈ text.toList := by
    rw [trim, String.toList_ofList]
    exact mem_trimChars_iff (by decide)
  simp only [readerOf, hslash]

theorem kind_readerOf_trim (text part : String) :
    (readerOf text (trim part)).mapError TimeError.kind =
      (readerOf text part).mapError TimeError.kind := by
  rw [readerOf]
  split
  · exact kind_readInterval_trim part
  · rw [readSingle_trim]

theorem kind_readList (text : String) :
    (readList text).mapError TimeError.kind =
      (commaParts text).mapM fun part => (readerOf text part).mapError TimeError.kind := by
  have hparts : (commaParts (trim text)).map trim = (commaParts text).map trim :=
    map_trim_splitOn_trim (by decide) text
  have htrim : ∀ parts : List String,
      (parts.mapM fun part => (readerOf text part).mapError TimeError.kind) =
        (parts.map trim).mapM fun part => (readerOf text part).mapError TimeError.kind := by
    intro parts
    rw [List.mapM_map]
    exact mapM_congr fun part _ => (kind_readerOf_trim text part).symm
  rw [htrim, ← hparts, ← htrim, ← readerOf_trim, readList]
  split
  · rename_i hblank
    have hempty : readSingle "" = .error (.invalidFormat "") := by with_unfolding_all rfl
    have hreader : readerOf "" = readSingle := if_neg List.not_mem_nil
    have hsplit : commaParts "" = [""] := rfl
    rw [hblank, hsplit, List.mapM_cons, hreader, hempty]
    rfl
  · exact mapError_mapM _ _ _

theorem kind_readList_of_not_mem (h : ',' ∉ text.toList) :
    (readList text).mapError TimeError.kind =
      ((readerOf text text).mapError TimeError.kind).map fun spec => [spec] := by
  rw [kind_readList, commaParts_of_not_mem h, List.mapM_cons]
  cases readerOf text text with
  | error e => rfl
  | ok spec => rfl

/-- The kind of error that the reading of a list ends with. -/
def FailsWith (text : String) (kind : TimeError.Kind) : Prop :=
  ∃ e, readList text = .error e ∧ kind = e.kind

theorem failsBy_readList (text : String) :
    FailsBy ((readList text).mapError TimeError.kind) (FailsWith text) :=
  fun _ => mapError_eq_error

theorem readList_eq_singleton_iff {spec : TimeSpec} (h : ',' ∉ text.toList) :
    readList text = .ok [spec] ↔ readerOf text text = .ok spec := by
  rw [← mapError_eq_ok (f := TimeError.kind), kind_readList_of_not_mem h, map_eq_ok]
  simp [mapError_eq_ok]

theorem exists_singleton_of_readList {specs : List TimeSpec} (h : ',' ∉ text.toList)
    (hread : readList text = .ok specs) :
    ∃ spec, specs = [spec] := by
  rw [← mapError_eq_ok (f := TimeError.kind), kind_readList_of_not_mem h, map_eq_ok] at hread
  obtain ⟨spec, _, hspec⟩ := hread
  exact ⟨spec, hspec.symm⟩

section Joined

def Uniform (texts : List String) : Prop :=
  (∀ t ∈ texts, '/' ∈ t.toList) ∨ ∀ t ∈ texts, '/' ∉ t.toList

theorem readerOf_intercalate (hslashes : Uniform texts) :
    ∀ t ∈ texts, readerOf (String.intercalate "," texts) = readerOf t := by
  intro t ht
  have hslash : '/' ∈ (String.intercalate "," texts).toList ↔ '/' ∈ t.toList := by
    apply Iff.intro
    · intro h
      rcases mem_toList_intercalate h with h | ⟨u, hu, hmem⟩
      · cases h
      · rcases hslashes with hall | hnone
        · exact hall t ht
        · exact absurd hmem (hnone u hu)
    · exact mem_toList_intercalate_of_mem ht
  simp only [readerOf, hslash]

theorem kind_readList_intercalate (hne : texts ≠ []) (hcommas : ∀ t ∈ texts, ',' ∉ t.toList)
    (hslashes : Uniform texts) :
    (readList (String.intercalate "," texts)).mapError TimeError.kind =
      texts.mapM fun t => (readerOf t t).mapError TimeError.kind := by
  rw [kind_readList, commaParts_intercalate hne hcommas]
  apply mapM_congr
  intro t ht
  rw [readerOf_intercalate hslashes t ht]

theorem readList_intercalate_eq_ok_iff (hne : texts ≠ [])
    (hcommas : ∀ t ∈ texts, ',' ∉ t.toList) (hslashes : Uniform texts) {specs : List TimeSpec} :
    readList (String.intercalate "," texts) = .ok specs ↔
      List.Forall₂ (fun t spec => readList t = .ok [spec]) texts specs := by
  rw [← mapError_eq_ok (f := TimeError.kind), kind_readList_intercalate hne hcommas hslashes,
    mapM_eq_ok]
  simp only [mapError_eq_ok]
  apply forall₂_congr_mem
  intro t ht spec
  exact (readList_eq_singleton_iff (hcommas t ht)).symm

theorem failsWith_intercalate_iff (hne : texts ≠ []) (hcommas : ∀ t ∈ texts, ',' ∉ t.toList)
    (hslashes : Uniform texts) {kind : TimeError.Kind} :
    FailsWith (String.intercalate "," texts) kind ↔ FirstFault (texts.map FailsWith) kind := by
  have hone :
      ∀ t ∈ texts, FailsBy ((readerOf t t).mapError TimeError.kind)
      (FirstFault [FailsWith t]) := by
    intro t ht k
    rw [firstFault_singleton, ← failsBy_readList t k,
      kind_readList_of_not_mem (hcommas t ht), map_eq_error]
  have hall := FailsBy.mapM hone
  rw [← kind_readList_intercalate hne hcommas hslashes, ← List.map_eq_flatMap] at hall
  exact (failsBy_readList _ kind).symm.trans (hall kind)

/-- Texts that are all intervals, or all none, are read as a list exactly if each can be read
alone. The list is then of what each is read as, one after the other, and otherwise fails as the
first text does that cannot be read. -/
theorem readList_joined (hne : texts ≠ []) (hcommas : ∀ t ∈ texts, ',' ∉ t.toList)
    (hslashes : Uniform texts) :
    ((∃ specs, readList (String.intercalate "," texts) = .ok specs) ↔
      ∀ t ∈ texts, ∃ specs, readList t = .ok specs) ∧
      (∀ specs, readList (String.intercalate "," texts) = .ok specs ↔
        List.Forall₂ (fun t spec => readList t = .ok [spec]) texts specs) ∧
      ∀ kind, FailsWith (String.intercalate "," texts) kind ↔
        FirstFault (texts.map FailsWith) kind := by
  have hlist : ∀ specs, readList (String.intercalate "," texts) = .ok specs ↔
      List.Forall₂ (fun t spec => readList t = .ok [spec]) texts specs :=
    fun _ => readList_intercalate_eq_ok_iff hne hcommas hslashes
  refine ⟨?_, hlist, fun _ => failsWith_intercalate_iff hne hcommas hslashes⟩
  simp only [hlist]
  apply Iff.intro
  · rintro ⟨specs, hspecs⟩ t ht
    obtain ⟨spec, _, hspec⟩ := forall₂_exists hspecs ht
    exact ⟨[spec], hspec⟩
  · intro hall
    apply exists_forall₂
    intro t ht
    obtain ⟨specs, hspecs⟩ := hall t ht
    obtain ⟨spec, rfl⟩ := exists_singleton_of_readList (hcommas t ht) hspecs
    exact ⟨spec, hspecs⟩

def faultyIntervals : List String :=
  ["current/current/PT1H", " 2024-01-02/2024-01-01/PT1H ", "a/b"]

theorem readList_faultyIntervals :
    (∀ t ∈ faultyIntervals, ',' ∉ t.toList) ∧ Uniform faultyIntervals ∧
      FailsWith (String.intercalate "," faultyIntervals) .invalidInterval := by
  have hcommas : ∀ t ∈ faultyIntervals, ',' ∉ t.toList := by decide +kernel
  have hslashes : ∀ t ∈ faultyIntervals, '/' ∈ t.toList := by decide +kernel
  refine ⟨hcommas, .inl hslashes, ?_⟩
  have hread : readList "current/current/PT1H" = .ok [.interval .current .current 60] := by
    with_unfolding_all rfl
  have hfault : FailsWith " 2024-01-02/2024-01-01/PT1H " .invalidInterval :=
    ⟨.invalidInterval "2024-01-02/2024-01-01/PT1H", by with_unfolding_all rfl, rfl⟩
  apply ((readList_joined (List.cons_ne_nil _ _) hcommas (.inl hslashes)).2.2
    .invalidInterval).2
  refine ⟨[FailsWith "current/current/PT1H"], _, [FailsWith "a/b"], rfl, ?_, hfault⟩
  rintro _ (_ | ⟨_, ⟨⟩⟩) kind ⟨e, he, _⟩
  rw [hread] at he
  cases he

end Joined

end TimeSpec

end LayerAtlas
