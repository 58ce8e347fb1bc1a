import LayerAtlas.Proofs.CurrentTimes
import LayerAtlas.Proofs.Expansion
import LayerAtlas.Proofs.PrintedValues

namespace LayerAtlas

open Instant Request Checks Text

namespace Text

variable {text : String} {c : Char}

theorem toList_map_toLower_of_sameLetters {word : String} (h : sameLetters text word = true) :
    text.toList.map Char.toLower = word.toList.map Char.toLower := by
  rw [sameLetters, decide_eq_true_eq] at h
  have hlists := congrArg String.toList h
  rw [lower, lower, String.toList_map, String.toList_map] at hlists
  exact hlists

theorem not_mem_of_sameLetters_current (h : sameLetters text "current" = true)
    (hc : c.toLower ∉ "current".toList.map Char.toLower) : c ∉ text.toList := by
  intro hmem
  rw [← toList_map_toLower_of_sameLetters h] at hc
  exact hc (List.mem_map_of_mem hmem)

end Text

namespace TimeSpec

variable {text : String} {spec : TimeSpec}

theorem readSingle_eq_current_iff : readSingle text = .ok current ↔
    sameLetters (trim text) "current" = true := by
  rw [readSingle, map_eq_ok]
  apply Iff.intro
  · rintro ⟨point, hpoint, hcurrent⟩
    cases point with
    | «at» t => cases hcurrent
    | current =>
      by_contra hword
      rw [TimePoint.read, if_neg hword, map_eq_ok] at hpoint
      obtain ⟨t, _, ht⟩ := hpoint
      cases ht
  · intro hword
    refine ⟨.current, ?_, rfl⟩
    rw [TimePoint.read, if_pos hword]

theorem readInterval_ne_current : readInterval text ≠ .ok current := by
  intro h
  rw [readInterval] at h
  split at h
  · obtain ⟨start, _, h⟩ := bind_eq_ok.1 h
    obtain ⟨stop, _, h⟩ := bind_eq_ok.1 h
    obtain ⟨minutes, _, h⟩ := bind_eq_ok.1 h
    split at h
    · cases h
    · cases h
  · cases h

theorem readList_eq_current_iff : readList text = .ok [current] ↔
    sameLetters (trim text) "current" = true := by
  have hparts : ((trim text).toList.splitOn ',').map String.ofList = commaParts (trim text) :=
    rfl
  simp only [readList, hparts]
  apply Iff.intro
  · intro h
    split at h
    · cases h
    obtain ⟨part, rest, hread, hrest, hsplit⟩ := List.forall₂_cons_right_iff.1 (mapM_eq_ok.1 h)
    rw [List.forall₂_nil_right_iff.1 hrest] at hsplit
    -- a list of one element is the element, blanks and all
    rw [eq_of_commaParts_eq hsplit]
    split at hread
    · exact absurd hread readInterval_ne_current
    · have hword := readSingle_eq_current_iff.1 hread
      rw [← eq_of_commaParts_eq hsplit, trim_trim] at hword
      rw [← eq_of_commaParts_eq hsplit]
      exact hword
  · intro hword
    have hslash : '/' ∉ (trim text).toList := not_mem_of_sameLetters_current hword (by decide)
    have hcomma : ',' ∉ (trim text).toList := not_mem_of_sameLetters_current hword (by decide)
    have hne : trim text ≠ "" := by
      intro hempty
      rw [hempty] at hword
      exact absurd (toList_map_toLower_of_sameLetters hword) (by decide)
    have hread : readSingle (trim text) = .ok current := by
      rw [readSingle_eq_current_iff, trim_trim]
      exact hword
    rw [if_neg hne, if_neg hslash, commaParts_of_not_mem hcomma]
    exact mapM_eq_ok.2 (.cons hread .nil)

end TimeSpec

namespace MapRequest

variable {s : Settings} {g : Generation} {now present : Instant} {p : Parameters MapParameter}
  {r : MapRequest}

theorem current_eq_none_of_times (h : validate s g now present p = .ok r)
    (htimes : r.times ≠ []) :
    ∀ drawn ∈ r.layers, drawn.current = none := by
  intro drawn hdrawn
  obtain ⟨q, _, _, hanswer⟩ := exists_query h
  obtain ⟨pair, _, l, _, hdrawn⟩ := forall₂_exists hanswer.layers.flip hdrawn
  rw [hanswer.times] at htimes
  have hcurrent := (MapQuery.drawn_eq_some_iff.1 hdrawn).2.2
  rw [MapQuery.current?, if_neg htimes] at hcurrent
  exact (Option.some.inj hcurrent).symm

/-- A request that is accepted with a list of times, other than the lone word `current`, is
answered for the instants of that list. They are drawn, and no current time is, unless all
elements are intervals without a step. -/
theorem times_of_explicit {text : String} (h : validate s g now present p = .ok r)
    (htime : p .time = some text) (hexplicit : sameLetters (trim text) "current" = false) :
    ∃ specs, TimeSpec.readList text = .ok specs ∧ TimeSpec.expandAll now specs = .ok r.times ∧
      (r.usesCurrent = true ↔ ∀ spec ∈ specs, spec.IsStepless) ∧
      ((∃ spec ∈ specs, ¬ spec.IsStepless) →
        r.times ≠ [] ∧ r.usesCurrent = false ∧ ∀ drawn ∈ r.layers, drawn.current = none) := by
  obtain ⟨q, hreads, _, hanswer⟩ := exists_query h
  have htimes := hreads.times
  rw [← hanswer.times, htime] at htimes
  obtain ⟨specs, hspecs, ⟨hcurrent, _⟩ | ⟨_, hexpand⟩⟩ := htimes
  · rw [hcurrent, TimeSpec.readList_eq_current_iff, hexplicit] at hspecs
    cases hspecs
  have hnil : r.times = [] ↔
      ∀ spec ∈ specs, spec.IsStepless := TimeSpec.expandAll_eq_nil_iff hexpand
  have huses : r.usesCurrent = true ↔ r.times = [] := decide_eq_true_iff
  refine ⟨specs, hspecs, hexpand, huses.trans hnil, ?_⟩
  rintro ⟨spec, hspec, hstep⟩
  have hne : r.times ≠ [] := fun hempty => hstep (hnil.1 hempty spec hspec)
  exact ⟨hne, Bool.eq_false_iff.2 (mt huses.1 hne), current_eq_none_of_times h hne⟩

end MapRequest

namespace IceCharts

variable {i : TimeInterval} {time : String} {specs : List TimeSpec} {ts : List Instant}

def requesting (time : String) : Parameters MapParameter
  | .time => some time
  | parameter => parameters parameter

theorem read_requesting (hspecs : TimeSpec.readList time = .ok specs)
    (hlist : specs ≠ [.current]) (hexpand : TimeSpec.expandAll noon specs = .ok ts) :
    ∃ q, MapQuery.read noon (requesting time) = .ok q ∧ AsksChart q ∧ q.times = ts := by
  obtain ⟨q, hread, hq, _⟩ := read_parameters
  have hreads := MapQuery.read_eq_ok.1 hread
  have htimes : Times noon (requesting time .time) ts := ⟨specs, hspecs, .inr ⟨hlist, hexpand⟩⟩
  exact ⟨{ q with times := ts }, MapQuery.read_eq_ok.2 { hreads with times := htimes },
    { hq with }, rfl⟩

theorem validate_requesting (i : TimeInterval) (hspecs : TimeSpec.readList time = .ok specs)
    (hlist : specs ≠ [.current]) (hexpand : TimeSpec.expandAll noon specs = .ok ts)
    (haccepts : ∀ t ∈ ts, (layer i).acceptsTime noon none t = some true) :
    ∃ r, MapRequest.validate {} ((world i).run {} [.refresh]).catalog.current noon noon
      (requesting time) = .ok r ∧
      r.times = ts ∧ r.reference = none ∧ r.layers =
        [{ layer := layer i, style := "default", current := if ts = [] then some i.stop
          else none }] := by
  obtain ⟨q, hread, hq, rfl⟩ := read_requesting hspecs hlist hexpand
  exact validate_of_read i hread hq haccepts

def zeroStep : String := "1970-01-01/1970-01-01T01:00/PT0M"

def mixedSteps : String := "1970-01-01/1970-01-01T01:00/PT0M,1970-01-01/1970-01-01T01:00/PT1H"

def stepless : TimeSpec := .interval (.at (ofFirstDay 0 0)) (.at (ofFirstDay 3600 0)) 0

def firstHour : TimeSpec := .interval (.at (ofFirstDay 0 0)) (.at (ofFirstDay 3600 0)) 60

theorem readList_zeroStep : TimeSpec.readList zeroStep = .ok [stepless] := by cbv

theorem readList_mixedSteps : TimeSpec.readList mixedSteps = .ok [stepless, firstHour] := by cbv

theorem not_current_of_readList (hspecs : TimeSpec.readList time = .ok specs)
    (hlist : specs ≠ [.current]) :
    sameLetters (trim time) "current" = false := by
  rw [Bool.eq_false_iff]
  intro hword
  rw [TimeSpec.readList_eq_current_iff.2 hword] at hspecs
  cases hspecs
  exact hlist rfl

end IceCharts

open IceCharts in
/-- A list of one interval without a step is read, but the current chart is drawn. -/
theorem MapRequest.current_drawn_zeroStep :
    ∃ g r drawn t, Generation.Reachable {} g ∧
      validate {} g noon noon (requesting zeroStep) = .ok r ∧
      sameLetters (trim zeroStep) "current" = false ∧ r.times = [] ∧ r.usesCurrent = true ∧
      drawn ∈ r.layers ∧
      drawn.current = some t := by
  have hexpand : TimeSpec.expandAll noon [stepless] = .ok [] := rfl
  obtain ⟨r, hr, htimes, _, hlayers⟩ :=
    validate_requesting threeHours readList_zeroStep (by decide) hexpand (by decide)
  have hexplicit : sameLetters (trim zeroStep) "current" = false :=
    not_current_of_readList readList_zeroStep (by decide)
  refine ⟨_, r, drawn threeHours, threeHours.stop, reachable threeHours, hr, hexplicit,
    htimes, ?_, ?_, rfl⟩
  · rw [usesCurrent, htimes]
    rfl
  · rw [hlayers]
    exact List.mem_singleton_self _

open IceCharts in
/-- Of two intervals the first has no step, and the charts of the second are drawn. -/
theorem MapRequest.times_of_explicit_mixedSteps :
    ∃ g r, Generation.Reachable {} g ∧ validate {} g noon noon (requesting mixedSteps) = .ok r ∧
      sameLetters (trim mixedSteps) "current" = false ∧
      r.times = [ofFirstDay 0 0, ofFirstDay 3600 0] ∧
      r.usesCurrent = false ∧ ∀ drawn ∈ r.layers, drawn.current = none := by
  have hexpand : TimeSpec.expandAll noon [stepless, firstHour] =
      .ok [ofFirstDay 0 0, ofFirstDay 3600 0] := rfl
  obtain ⟨r, hr, htimes, _⟩ :=
    validate_requesting threeHours readList_mixedSteps (by decide) hexpand (by decide)
  have hexplicit : sameLetters (trim mixedSteps) "current" = false :=
    not_current_of_readList readList_mixedSteps (by decide)
  obtain ⟨specs, hspecs, _, _, hdrawn⟩ := times_of_explicit hr rfl hexplicit
  cases readList_mixedSteps.symm.trans hspecs
  have hstep : ¬ firstHour.IsStepless := by
    change ¬ (60 : Int) ≤ 0
    decide
  obtain ⟨_, huses, hcurrent⟩ :=
    hdrawn ⟨firstHour, List.mem_cons_of_mem _ List.mem_cons_self, hstep⟩
  exact ⟨_, r, reachable threeHours, hr, hexplicit, htimes, huses, hcurrent⟩

end LayerAtlas
