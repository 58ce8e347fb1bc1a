import LayerAtlas.Proofs.Checks
import LayerAtlas.Proofs.Dimensions
import Mathlib.Order.Bounds.Basic

namespace LayerAtlas

open Instant

/-- An answer that is the greatest instant of a set, or nothing if the set is empty. -/
def Instant.IsLatest (s : Set Instant) : Option Instant → Prop
  | none => s = ∅
  | some t => IsGreatest s t

namespace Instant

variable {ts : List Instant}

theorem isLatest_of_mem_iff {s s' : Set Instant} {o : Option Instant} (h : IsLatest s o)
    (hmem : ∀ t, t ∈ s' ↔ t ∈ s) : IsLatest s' o := by
  rw [Set.ext hmem]
  exact h

theorem IsLatest.eq {s : Set Instant} {o o' : Option Instant} (h : IsLatest s o)
    (h' : IsLatest s o') :
    o = o' := by
  cases o with
  | none =>
    cases o' with
    | none => rfl
    | some t => exact absurd h'.1 (Set.eq_empty_iff_forall_notMem.1 h t)
  | some t =>
    cases o' with
    | none => exact absurd h.1 (Set.eq_empty_iff_forall_notMem.1 h' t)
    | some u => rw [IsGreatest.unique h h']

theorem latest?_eq_none_iff : latest? ts = none ↔ ts = [] := by
  cases ts with
  | nil => exact iff_of_true rfl rfl
  | cons t r =>
    refine iff_of_false ?_ (List.cons_ne_nil t r)
    rw [latest?]
    split
    · exact Option.some_ne_none _
    · exact Option.some_ne_none _

theorem isLatest_latest? (ts : List Instant) : IsLatest {t | t ∈ ts} (latest? ts) := by
  induction ts with
  | nil => exact Set.eq_empty_of_forall_notMem fun t ht => List.not_mem_nil ht
  | cons t r ih =>
    simp only [latest?]
    cases hr : latest? r with
    | none =>
      rw [hr] at ih
      refine ⟨List.mem_cons_self, ?_⟩
      intro u hu
      rcases List.mem_cons.1 hu with rfl | hu
      · exact le_refl u
      · exact absurd hu (Set.eq_empty_iff_forall_notMem.1 ih u)
    | some v =>
      rw [hr] at ih
      obtain ⟨hv, hle⟩ := ih
      change IsLatest _ (some (if v < t then t else v))
      split
      · rename_i hlt
        refine ⟨List.mem_cons_self, ?_⟩
        intro u hu
        rcases List.mem_cons.1 hu with rfl | hu
        · exact le_refl u
        · exact le_of_lt (lt_of_le_of_lt (hle hu) hlt)
      · rename_i hlt
        refine ⟨List.mem_cons_of_mem t hv, ?_⟩
        intro u hu
        rcases List.mem_cons.1 hu with rfl | hu
        · exact not_lt.1 hlt
        · exact hle hu

theorem isLatest_filterMap {α : Type} {xs : List α} {f : α → Option Instant}
    {s : α → Set Instant} (h : ∀ x ∈ xs, IsLatest (s x) (f x)) :
    IsLatest {t | ∃ x ∈ xs, t ∈ s x} (latest? (xs.filterMap f)) := by
  have hlatest := isLatest_latest? (xs.filterMap f)
  -- the set of an answer that is not there is empty
  have hfound : ∀ t, ∀ x ∈ xs, t ∈ s x → ∃ u ∈ xs.filterMap f, t ≤ u := by
    intro t x hx ht
    have hfx := h x hx
    cases hu : f x with
    | none =>
      rw [hu] at hfx
      exact absurd ht (Set.eq_empty_iff_forall_notMem.1 hfx t)
    | some u =>
      rw [hu] at hfx
      exact ⟨u, List.mem_filterMap.2 ⟨x, hx, hu⟩, hfx.2 ht⟩
  cases hm : latest? (xs.filterMap f) with
  | none =>
    rw [hm] at hlatest
    refine Set.eq_empty_of_forall_notMem ?_
    rintro t ⟨x, hx, ht⟩
    obtain ⟨u, hu, _⟩ := hfound t x hx ht
    exact Set.eq_empty_iff_forall_notMem.1 hlatest u hu
  | some m =>
    rw [hm] at hlatest
    obtain ⟨hmem, hle⟩ := hlatest
    constructor
    · obtain ⟨x, hx, hfx⟩ := List.mem_filterMap.1 hmem
      have hgreatest := h x hx
      rw [hfx] at hgreatest
      exact ⟨x, hx, hgreatest.1⟩
    · rintro t ⟨x, hx, ht⟩
      obtain ⟨u, hu, htu⟩ := hfound t x hx ht
      exact le_trans htu (hle hu)

theorem isLatest_find?_reverse (hasc : Ascending ts) (p : Instant → Bool) :
    IsLatest {t | t ∈ ts ∧ p t = true} (ts.reverse.find? p) := by
  cases hfind : ts.reverse.find? p with
  | none =>
    refine Set.eq_empty_of_forall_notMem ?_
    intro t ht
    exact List.find?_eq_none.1 hfind t (List.mem_reverse.2 ht.1) ht.2
  | some m =>
    obtain ⟨hp, before, after, rfl, hafter⟩ := Checks.find?_reverse_eq_some_iff.1 hfind
    refine ⟨⟨by simp, hp⟩, ?_⟩
    rintro t ⟨ht, hpt⟩
    rcases List.mem_append.1 ht with ht | ht
    · exact le_of_lt ((List.pairwise_append.1 hasc).2.2 t ht m List.mem_cons_self)
    · rcases List.mem_cons.1 ht with rfl | ht
      · exact le_refl t
      · rw [hafter t ht] at hpt
        cases hpt

end Instant

theorem tdiv_mul_greatest {d : Int} (hd : 0 ≤ d) (s : Int) :
    0 ≤ d.tdiv s * s ∧ d.tdiv s * s ≤ d ∧ ∀ n, n ≤ d → s ∣ n → n ≤ d.tdiv s * s := by
  have hsum := Int.tdiv_mul_add_tmod d s
  have hrest := Int.tmod_nonneg s hd
  have habs := Int.natAbs_tmod d s
  have hle := Nat.mod_le d.natAbs s.natAbs
  refine ⟨by omega, by omega, ?_⟩
  intro n hn hdvd
  by_cases hs : s = 0
  · rw [hs] at hdvd ⊢
    rw [Int.zero_dvd.1 hdvd, Int.mul_zero]
  · by_contra hlt
    -- two multiples of the step would be closer to each other than a step
    have hdiff : (s.natAbs : Int) ∣ n - d.tdiv s * s :=
      Int.natAbs_dvd.2 (Int.dvd_sub hdvd (Int.dvd_mul_left _ s))
    have hclose := Nat.mod_lt d.natAbs (Int.natAbs_pos.2 hs)
    have hstep := Int.le_of_dvd (by omega) hdiff
    omega

namespace TimeInterval

variable {i : TimeInterval} {limit : Option Instant} {t : Instant}

theorem earlier_stop_lt_iff {l : Instant} : l.earlier i.stop < i.start ↔ l < i.start := by
  rw [← not_le, ← not_le, le_earlier_iff, and_iff_left i.ordered]

theorem lastBy_eq {l : Instant} : i.lastBy l =
    if l < i.start then some none
    else if i.StepFits then
      some (i.start.shift
        (((l.earlier i.stop).since i.start).wholeSeconds.tdiv
          (i.minutes * 60) * (i.minutes * 60)))
    else none := by
  simp only [lastBy, earlier_stop_lt_iff, stepSeconds_eq]
  refine if_congr Iff.rfl rfl ?_
  split
  · have hpos := i.step_pos
    have hbound := natAbs_wholeSeconds_since (l.earlier i.stop) i.start
    generalize ((l.earlier i.stop).since i.start).wholeSeconds = d at hbound ⊢
    -- the product is not farther from zero than the dividend
    have hsmall : (d.tdiv (i.minutes * 60) * (i.minutes * 60)).natAbs ≤ d.natAbs := by
      rw [Int.natAbs_mul, Int.natAbs_tdiv]
      exact Nat.div_mul_le_self _ _
    have hquotient := Answer.quotient_eq (a := d) (b := i.minutes * 60)
      (by rw [Text.maxInt64]; omega) (by omega)
    have htimes : Answer.times (d.tdiv (i.minutes * 60)) (i.minutes * 60) = some _ :=
      Answer.word_of_natAbs_le (by rw [Text.maxInt64]; omega)
    simp [hquotient, htimes]
  · rfl

theorem lastBy_eq_none_iff {l : Instant} : i.lastBy l = none ↔ i.start ≤ l ∧ ¬ i.StepFits := by
  rw [lastBy_eq, ← not_lt]
  split
  · simp_all
  · split <;> simp_all

theorem isLatest_lastBy {l : Instant} {o : Option Instant} (hstart : ¬ i.start.IsLeap)
    (hstop : ¬ i.stop.IsLeap) (hl : ¬ l.IsLeap) (h : i.lastBy l = some o) :
    IsLatest {t | ¬ t.IsLeap ∧ i.contains (some l) t = some true} o := by
  have hend : ¬ (l.earlier i.stop).IsLeap := not_isLeap_earlier hl hstop
  rw [lastBy_eq] at h
  split at h
  · rename_i hlt
    cases h
    refine Set.eq_empty_of_forall_notMem ?_
    rintro t ⟨ht, hmem⟩
    obtain ⟨_, hle, hstop, _⟩ := (contains_iff_offset hstart ht).1 hmem
    exact absurd (earlier_stop_lt_iff.2 hlt) (not_lt.2 (le_trans hle hstop))
  · rename_i hnot
    obtain ⟨hfits, h⟩ := Option.ite_none_right_eq_some.1 h
    cases h
    have hle : i.start ≤ l.earlier i.stop := not_lt.1 (mt earlier_stop_lt_iff.1 hnot)
    obtain ⟨hnonneg, hsmall, hgreatest⟩ :=
      tdiv_mul_greatest (wholeSeconds_since_nonneg hend hle) (i.minutes * 60)
    obtain ⟨m, hm⟩ := exists_shift hend hle hnonneg hsmall
    rw [hm]
    obtain ⟨hseconds, hnanos⟩ := (shift_eq_some_iff hstart).1 hm
    have hleap : ¬ m.IsLeap := not_isLeap_of_nanos hstart hnanos
    constructor
    · refine ⟨hleap, (contains_iff_offset hstart hleap).2 ⟨hfits, ?_, ?_, hnanos, ?_⟩⟩
      · rw [Instant.le_iff]
        omega
      · exact (le_iff_le_wholeSeconds hstart hend hle hseconds hnanos).2 hsmall
      · rw [hseconds, Int.add_comm, Int.add_sub_cancel]
        exact Int.dvd_mul_left _ _
    · rintro t ⟨ht, hmem⟩
      obtain ⟨_, _, htend, htnanos, hdvd⟩ := (contains_iff_offset hstart ht).1 hmem
      have hoffset : t.seconds = i.start.seconds + (t.seconds - i.start.seconds) := by omega
      have hwhole := (le_iff_le_wholeSeconds hstart hend hle hoffset htnanos).1 htend
      have hn := hgreatest _ hwhole hdvd
      rw [Instant.le_iff]
      omega

variable {l : Instant}

theorem lastBy_eq_some_none_iff (hl : l ≤ maximum) : i.lastBy l = some none ↔ l < i.start := by
  rw [lastBy_eq]
  split
  · rename_i hlt
    exact iff_of_true rfl hlt
  · rename_i hnot
    have hstart : i.start ≤ l.earlier i.stop := not_lt.1 (mt earlier_stop_lt_iff.1 hnot)
    have hmax : l.earlier i.stop ≤ maximum := le_trans (le_earlier_iff.1 (le_refl _)).1 hl
    obtain ⟨hnonneg, hmost⟩ := wholeSeconds_since_bounds hstart hmax
    obtain ⟨hzero, hless, _⟩ := tdiv_mul_greatest hnonneg (i.minutes * 60)
    refine iff_of_false ?_ hnot
    intro h
    obtain ⟨_, hnone⟩ := Option.ite_none_right_eq_some.1 h
    have hsome := isSome_shift (t := i.start) hzero (by omega)
    rw [Option.some.inj hnone] at hsome
    cases hsome

theorem contains_eq_false_iff :
    (∀ t, i.contains (some l) t = some false) ↔ l < i.start := by
  rw [← not_le]
  apply Iff.intro
  · intro h hle
    have hstart := h i.start
    rw [contains_start (by rintro _ ⟨⟩; exact hle)] at hstart
    split at hstart <;> cases hstart
  · intro hnot t
    rw [contains_eq, if_neg]
    rintro ⟨hle, hstop, _⟩
    exact hnot (le_trans hle ((le_stopBy_iff.1 hstop).2 l rfl))

end TimeInterval

namespace TimeDimension

/-- The instants that a dimension is made of: its steps, or the ends of its intervals. -/
def instants : TimeDimension → List Instant
  | steps s => s.times
  | intervals is => is.items.flatMap fun i => [i.start, i.stop]

/-- Every interval ends a whole number of steps after its start, with a step that fits. -/
def EndsOnStep : TimeDimension → Prop
  | steps _ => True
  | intervals is => ∀ i ∈ is.items, i.StepFits ∧ i.start.Reaches i.minutes i.stop

variable {d : TimeDimension} {limit : Option Instant} {o : Option Instant}

theorem mem_instants_of_mem_items {is : Intervals} {i : TimeInterval} (h : i ∈ is.items) :
    i.start ∈ (intervals is).instants ∧ i.stop ∈ (intervals is).instants := by
  constructor
  · exact List.mem_flatMap_of_mem h (by simp)
  · exact List.mem_flatMap_of_mem h (by simp)

theorem EndsOnStep.fitsBy (h : d.EndsOnStep) : d.FitsBy limit := by
  cases d with
  | steps s => trivial
  | intervals is => exact fun i hi _ => (h i hi).1

theorem FitsBy.of_none (h : d.FitsBy none) : d.FitsBy limit := by
  cases d with
  | steps s => trivial
  | intervals is => exact fun i hi _ => h i hi rfl

theorem last?_steps (s : Steps) (limit : Option Instant) : (steps s).last? limit =
    some (s.times.reverse.find? fun t => limit.all fun l => t ≤ l) := by
  cases limit with
  | none =>
    rw [last?, List.getLast?_eq_head?_reverse]
    cases s.times.reverse with
    | nil => rfl
    | cons t r => rfl
  | some l => rfl

/-- The last instant up to a limit is known exactly if all steps that are needed fit. -/
theorem last?_eq_none_iff : d.last? limit = none ↔ limit ≠ none ∧ ¬ d.FitsBy limit := by
  cases d with
  | steps s =>
    rw [last?_steps]
    exact iff_of_false (Option.some_ne_none _) fun h => h.2 trivial
  | intervals is =>
    cases limit with
    | none => exact iff_of_false (Option.some_ne_none _) fun h => h.1 rfl
    | some l =>
      rw [last?, Option.map_eq_none_iff, and_iff_right (Option.some_ne_none l)]
      have hnone : (∃ i ∈ is.items, i.lastBy l = none) ↔ ¬ (intervals is).FitsBy (some l) := by
        simp [FitsBy, TimeInterval.lastBy_eq_none_iff]
      rw [← hnone]
      obtain ⟨found, hfound, heq⟩ | ⟨hnone, heq⟩ :=
        Answer.mapM_cases (fun i : TimeInterval => i.lastBy l) is.items
      · refine iff_of_false (by rw [heq]; exact Option.some_ne_none _) ?_
        rintro ⟨i, hi, hnone⟩
        obtain ⟨o, _, ho⟩ := Checks.forall₂_exists hfound hi
        rw [hnone] at ho
        cases ho
      · exact iff_of_true heq hnone

theorem last?_intervals_eq_some {is : Intervals} {l : Instant}
    (h : (intervals is).last? (some l) = some o) : ∃ f : TimeInterval → Option Instant,
      (∀ i ∈ is.items, i.lastBy l = some (f i)) ∧ o = latest? (is.items.filterMap f) := by
  obtain ⟨found, hfound, rfl⟩ := Option.map_eq_some_iff.1 h
  have hmem := Answer.mapM_eq_some_iff.1 hfound
  have hmap : found = is.items.map fun i => (i.lastBy l).getD none := by
    refine Checks.eq_map_of_forall₂ ?_ hmem
    intro i o ho
    rw [ho]
    rfl
  refine ⟨fun i => (i.lastBy l).getD none, ?_, ?_⟩
  · intro i hi
    obtain ⟨o, _, ho⟩ := Checks.forall₂_exists hmem hi
    simp only [ho, Option.getD_some]
  · rw [hmap, List.filterMap_map]
    rfl

theorem isLatest_steps_of_mem {s : Steps} (hleap : ∀ t ∈ s.times, ¬ t.IsLeap) :
    IsLatest {t | ¬ t.IsLeap ∧ (steps s).contains limit t = some true}
      (s.times.reverse.find? fun t => limit.all fun l => t ≤ l) := by
  refine isLatest_of_mem_iff (isLatest_find?_reverse s.ascending _) ?_
  intro t
  rw [Set.mem_ofPred_eq, Set.mem_ofPred_eq, contains_steps_iff, limit_all_iff]
  exact and_iff_right_of_imp fun h => hleap t h.1

theorem isLatest_intervals {is : Intervals} {f : TimeInterval → Option Instant}
    (hfits : (intervals is).FitsBy limit)
    (h : ∀ i ∈ is.items, IsLatest {t | ¬ t.IsLeap ∧ i.contains limit t = some true} (f i)) :
    IsLatest {t | ¬ t.IsLeap ∧ (intervals is).contains limit t = some true}
      (latest? (is.items.filterMap f)) := by
  refine isLatest_of_mem_iff (isLatest_filterMap h) ?_
  intro t
  simp only [Set.mem_ofPred_eq, contains_intervals_iff hfits]
  tauto

theorem isLatest_stop {i : TimeInterval} (hstart : ¬ i.start.IsLeap) (hstop : ¬ i.stop.IsLeap)
    (hstep : i.StepFits) (hreaches : i.start.Reaches i.minutes i.stop) :
    IsLatest {t | ¬ t.IsLeap ∧ i.contains none t = some true} (some i.stop) := by
  refine ⟨⟨hstop, ?_⟩, ?_⟩
  · exact (TimeInterval.contains_iff hstart hstop).2
      ⟨hstep, hreaches, le_refl _, by rintro l ⟨⟩⟩
  · rintro t ⟨ht, hcontains⟩
    exact ((TimeInterval.contains_iff hstart ht).1 hcontains).2.2.1

theorem isLatest_last? (hleap : ∀ t ∈ d.instants, ¬ t.IsLeap)
    (hlimit : ∀ l, limit = some l → ¬ l.IsLeap) (hend : limit = none → d.EndsOnStep)
    (h : d.last? limit = some o) :
    IsLatest {t | ¬ t.IsLeap ∧ d.contains limit t = some true} o := by
  cases d with
  | steps s =>
    rw [last?_steps] at h
    cases h
    exact isLatest_steps_of_mem hleap
  | intervals is =>
    cases limit with
    | none =>
      have hlast : o = latest? (is.items.filterMap fun i => some i.stop) := by
        rw [List.filterMap_eq_map']
        exact (Option.some.inj h).symm
      rw [hlast]
      refine isLatest_intervals (hend rfl).fitsBy fun i hi => ?_
      obtain ⟨hstart, hstop⟩ := mem_instants_of_mem_items hi
      obtain ⟨hstep, hreaches⟩ := hend rfl i hi
      exact isLatest_stop (hleap _ hstart) (hleap _ hstop) hstep hreaches
    | some l =>
      have hfits : (intervals is).FitsBy (some l) := by
        by_contra hnot
        rw [last?_eq_none_iff.2 ⟨Option.some_ne_none l, hnot⟩] at h
        cases h
      obtain ⟨f, hf, rfl⟩ := last?_intervals_eq_some h
      refine isLatest_intervals hfits fun i hi => ?_
      obtain ⟨hstart, hstop⟩ := mem_instants_of_mem_items hi
      exact TimeInterval.isLatest_lastBy (hleap _ hstart) (hleap _ hstop)
        (hlimit l rfl) (hf i hi)

variable {l : Instant}

theorem last?_eq_some_none_iff (hl : l ≤ maximum) :
    d.last? (some l) = some none ↔ ∀ t, d.contains (some l) t = some false := by
  cases d with
  | steps s =>
    rw [last?_steps, Option.some.injEq, List.find?_eq_none]
    apply Iff.intro
    · intro h t
      refine contains_steps_decides.eq_false ?_
      rintro ⟨ht, hle⟩
      exact h t (List.mem_reverse.2 ht) (limit_all_iff.2 hle)
    · intro h t ht hle
      have hcontains := contains_steps_iff.2 ⟨List.mem_reverse.1 ht, limit_all_iff.1 hle⟩
      cases (h t).symm.trans hcontains
  | intervals is =>
    have hafter : (∀ t, (intervals is).contains (some l) t = some false) ↔
        ∀ i ∈ is.items, l < i.start := by
      simp only [contains_intervals, Answer.anyM_eq_false_iff,
        ← TimeInterval.contains_eq_false_iff]
      exact ⟨fun h i hi t => h t i hi, fun h t i hi => h i hi t⟩
    rw [hafter]
    apply Iff.intro
    · intro h i hi
      obtain ⟨f, hf, hnone⟩ := last?_intervals_eq_some h
      have hempty := List.filterMap_eq_nil_iff.1 (latest?_eq_none_iff.1 hnone.symm) i hi
      exact (TimeInterval.lastBy_eq_some_none_iff hl).1 (hempty ▸ hf i hi)
    · intro h
      have hall : is.items.mapM (fun i : TimeInterval => i.lastBy l) =
          some (is.items.map fun _ => none) := by
        refine Answer.mapM_eq_some_iff.2 (List.forall₂_map_right_iff.2 (List.forall₂_same.2 ?_))
        intro i hi
        exact (TimeInterval.lastBy_eq_some_none_iff hl).2 (h i hi)
      rw [last?, hall, Option.map_some]
      simp [latest?]

/-- Up to a limit the last instant of a dimension is the greatest one that belongs to it and is
not after the limit, and there is none exactly if no instant does. -/
theorem last?_eq_some_iff_isGreatest (hleap : ∀ t ∈ d.instants, ¬ t.IsLeap) (hl : ¬ l.IsLeap)
    (hfits : d.FitsBy none) :
    ∃ o, d.last? (some l) = some o ∧
      (∀ t, o = some t ↔ IsGreatest {t | ¬ t.IsLeap ∧ d.contains (some l) t = some true} t) ∧
      (o = none ↔ ∀ t, d.contains (some l) t = some false) := by
  have hlimit : ∀ m, some l = some m → ¬ m.IsLeap := by
    rintro m ⟨⟩
    exact hl
  have hfits' : d.FitsBy (some l) := hfits.of_none
  obtain ⟨o, ho⟩ := Option.ne_none_iff_exists'.1 fun hnone =>
    (last?_eq_none_iff.1 hnone).2 hfits'
  have hlatest : IsLatest {t | ¬ t.IsLeap ∧ d.contains (some l) t = some true} o :=
    isLatest_last? hleap hlimit nofun ho
  refine ⟨o, ho, ?_, ?_⟩
  · intro t
    apply Iff.intro
    · rintro rfl
      exact hlatest
    · intro hgreatest
      have hanswer : IsLatest {t | ¬ t.IsLeap ∧ d.contains (some l) t = some true} (some t) :=
        hgreatest
      exact hlatest.eq hanswer
  · rw [← last?_eq_some_none_iff (le_maximum hl), ho, Option.some.injEq]

/-- Every hour from midnight to half past two, and every three quarters of an hour from half a
second later to three. -/
def overlapping : TimeDimension :=
  intervals {
    items := [.hourly 9000,
      { start := ofFirstDay 0 500000000
        stop := ofFirstDay 10800 0
        minutes := 45
        ordered := by decide
        step_pos := by decide }]
    nonempty := List.cons_ne_nil _ _ }

/-- At twenty past two a step of the second interval is the last one, half a second after a
quarter past. -/
theorem last?_eq_some_iff_isGreatest_overlapping :
    let l := ofFirstDay 8400 250000000
    let t := ofFirstDay 8100 500000000
    (∀ t ∈ overlapping.instants, ¬ t.IsLeap) ∧ ¬ l.IsLeap ∧ overlapping.FitsBy none ∧
      overlapping.last? (some l) = some (some t) ∧
      IsGreatest {t | ¬ t.IsLeap ∧ overlapping.contains (some l) t = some true} t := by
  intro l t
  have hleap : ∀ t ∈ overlapping.instants, ¬ t.IsLeap := by decide
  have hl : ¬ l.IsLeap := by decide
  have hfits : overlapping.FitsBy none := by decide
  have hlast : overlapping.last? (some l) = some (some t) := by decide
  obtain ⟨o, ho, hgreatest, _⟩ := last?_eq_some_iff_isGreatest hleap hl hfits
  cases hlast.symm.trans ho
  exact ⟨hleap, hl, hfits, hlast, (hgreatest t).1 rfl⟩

end TimeDimension

end LayerAtlas
