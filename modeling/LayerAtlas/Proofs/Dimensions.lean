import LayerAtlas.Time.Dimension
import LayerAtlas.Proofs.Answers
import LayerAtlas.Proofs.Instants
import Mathlib.Data.List.Basic

namespace LayerAtlas

open Instant Text

namespace TimeInterval

variable {i : TimeInterval} {limit : Option Instant} {t : Instant}

theorem make_eq_ok {start stop : Instant} {minutes : Int} :
    make start stop minutes = .ok i ↔
    i.start = start ∧ i.stop = stop ∧ i.minutes = minutes := by
  rw [make]
  apply Iff.intro
  · intro h
    split at h
    · split at h
      · cases h
        exact ⟨rfl, rfl, rfl⟩
      · cases h
    · cases h
  · intro h'
    obtain ⟨rfl, rfl, rfl⟩ := h'
    rw [dif_pos i.ordered, dif_pos i.step_pos]

def hourly (stop : Nat) : TimeInterval where
  start := ofFirstDay 0 0
  stop := ofFirstDay stop 0
  minutes := 60
  ordered := by
    simp only [le_iff, ofFirstDay]
    omega
  step_pos := by decide

/-- The step in seconds is a signed number of 64 bits. -/
def StepFits (i : TimeInterval) : Prop := i.minutes * 60 ≤ maxInt64

instance (i : TimeInterval) : Decidable i.StepFits := inferInstanceAs (Decidable (_ ≤ _))

theorem stepSeconds_eq (i : TimeInterval) :
    i.stepSeconds = if i.StepFits then some (i.minutes * 60) else none := by
  have hpos := i.step_pos
  rw [stepSeconds, Answer.times, Answer.word_eq (by rw [maxInt64]; omega)]
  rfl

theorem le_stopBy_iff : t ≤ i.stopBy limit ↔ t ≤ i.stop ∧ ∀ l, limit = some l → t ≤ l := by
  cases limit with
  | none => simp [stopBy]
  | some l =>
    rw [stopBy, le_earlier_iff, and_comm]
    simp

theorem contains_eq : i.contains limit t =
    if i.start ≤ t ∧ t ≤ i.stopBy limit ∧ (t.since i.start).nanos = 0 then
      if i.StepFits then some (decide (i.minutes * 60 ∣ (t.since i.start).wholeSeconds))
      else none
    else some false := by
  have hpos := i.step_pos
  have hbound := natAbs_wholeSeconds_since t i.start
  rw [contains, stepSeconds_eq]
  refine if_congr Iff.rfl ?_ rfl
  split
  · have hrest := Answer.remainder_eq (a := (t.since i.start).wholeSeconds)
      (b := i.minutes * 60) (by rw [maxInt64]; omega) (by omega)
    simp [hrest, Int.dvd_iff_tmod_eq_zero]
  · rfl

theorem contains_eq_true_iff : i.contains limit t = some true ↔ i.StepFits ∧ i.start ≤ t ∧
    t ≤ i.stopBy limit ∧ (t.since i.start).nanos = 0 ∧
      i.minutes * 60 ∣ (t.since i.start).wholeSeconds := by
  rw [contains_eq]
  split
  · split
    · simp_all
    · simp_all
  · simp_all

theorem contains_ne_none (h : (limit.all fun l => i.start ≤ l) = true → i.StepFits) :
    i.contains limit t ≠ none := by
  rw [contains_eq]
  split
  · rename_i hwithin
    have hbegun : (limit.all fun l => i.start ≤ l) = true := by
      cases limit with
      | none => rfl
      | some l =>
        exact decide_eq_true (le_trans hwithin.1 ((le_stopBy_iff.1 hwithin.2.1).2 l rfl))
    rw [if_pos (h hbegun)]
    exact Option.some_ne_none _
  · exact Option.some_ne_none _

theorem contains_iff_offset (hstart : ¬ i.start.IsLeap) (ht : ¬ t.IsLeap) :
    i.contains limit t = some true ↔ i.StepFits ∧ i.start ≤ t ∧ t ≤ i.stopBy limit ∧
      t.nanos = i.start.nanos ∧ i.minutes * 60 ∣ t.seconds - i.start.seconds := by
  rw [contains_eq_true_iff, since_nanos_eq_zero_iff ht hstart]
  refine and_congr_right fun _ => and_congr_right fun _ => and_congr_right fun _ => ?_
  refine and_congr_right fun hnanos => ?_
  rw [Span.wholeSeconds_of_nanos ((since_nanos_eq_zero_iff ht hstart).2 hnanos),
    since_seconds ht hstart hnanos]

theorem contains_iff (hstart : ¬ i.start.IsLeap) (ht : ¬ t.IsLeap) :
    i.contains limit t = some true ↔ i.StepFits ∧
      i.start.Reaches i.minutes t ∧ t ≤ i.stop ∧ ∀ l, limit = some l → t ≤ l := by
  have hpos := i.step_pos
  rw [contains_iff_offset hstart ht, le_stopBy_iff, reaches_iff hstart]
  refine and_congr_right fun _ => ?_
  apply Iff.intro
  · rintro ⟨hle, hstop, hnanos, k, hk⟩
    -- the number of steps is not negative, since the start is not after `t`
    have hk0 : 0 ≤ k := by
      rw [Instant.le_iff] at hle
      by_contra hneg
      have hprod : (i.minutes * 60) * k < 0 := Int.mul_neg_of_pos_of_neg (by omega) (by omega)
      omega
    refine ⟨⟨hnanos, k.toNat, ?_⟩, hstop⟩
    rw [Int.toNat_of_nonneg hk0, Int.mul_comm]
    omega
  · rintro ⟨hreaches, hstop⟩
    have hle : i.start ≤ t := Reaches.le ((reaches_iff hstart).2 hreaches) hstart hpos
    obtain ⟨hnanos, k, hk⟩ := hreaches
    refine ⟨hle, hstop, hnanos, ?_⟩
    rw [hk, Int.add_comm, Int.add_sub_cancel]
    exact Int.dvd_mul_left _ _

theorem contains_start (h : ∀ l, limit = some l → i.start ≤ l) :
    i.contains limit i.start = if i.StepFits then some true else none := by
  have hstop : i.start ≤ i.stopBy limit := le_stopBy_iff.2 ⟨i.ordered, h⟩
  rw [contains_eq, since_self, if_pos ⟨le_refl _, hstop, rfl⟩]
  simp [Span.wholeSeconds]

end TimeInterval

namespace Steps

variable {ts : List Instant} {s : Steps}

theorem mem_times_of_ofList? (h : ofList? ts = some s) {t : Instant} :
    t ∈ s.times ↔ t ∈ ts := by
  rw [ofList?] at h
  split at h
  · cases h
    exact Ascending.mem_ofList
  · cases h

theorem ofList?_eq_none_iff : ofList? ts = none ↔ ts = [] := by
  rw [ofList?]
  split
  · rename_i h
    refine iff_of_false (by simp) ?_
    rintro rfl
    exact h rfl
  · rename_i h
    refine iff_of_true rfl ?_
    rw [Classical.not_not] at h
    refine List.eq_nil_iff_forall_not_mem.2 fun t ht => ?_
    rw [← Ascending.mem_ofList, h] at ht
    cases ht

end Steps

namespace TimeDimension

variable {ts r : List Instant} {t u : Instant}

theorem mem_evenlySpaced {step : Span} {minutes : Int} (hpos : 0 < minutes)
    (hnanos : step.nanos = 0) (hseconds : step.seconds = minutes * 60)
    (hleap : ∀ v ∈ t :: r, ¬ v.IsLeap) (hasc : Ascending (t :: r))
    (heven : evenlySpaced step (t :: r) = true) :
    u ∈ t :: r ↔ t.Reaches minutes u ∧ u ≤ r.getLastD t := by
  have ht : ¬ t.IsLeap := hleap t List.mem_cons_self
  -- the tail starts at the end of the first step and ends with the same instant
  induction r generalizing t with
  | nil =>
    rw [List.mem_singleton, List.getLastD_nil]
    apply Iff.intro
    · rintro rfl
      exact ⟨reaches_self minutes u, le_refl u⟩
    · intro h
      obtain ⟨hreaches, hle⟩ := h
      exact le_antisymm hle (hreaches.le ht hpos)
  | cons v r ih =>
    obtain ⟨hfirst, hrest⟩ := List.pairwise_cons.1 hasc
    have hv : ¬ v.IsLeap := hleap v (by simp)
    rw [evenlySpaced, Bool.and_eq_true, decide_eq_true_eq] at heven
    obtain ⟨hsince, heven⟩ := heven
    rw [← hsince] at hnanos hseconds
    obtain ⟨hvnanos, hvseconds⟩ := parts_of_since hv ht hnanos
    rw [hseconds] at hvseconds
    have hlast : t ≤ r.getLastD v := le_of_lt (hfirst _ List.getLastD_mem_cons)
    have hmem : u ∈ v :: r ↔ v.Reaches minutes u ∧ u ≤ r.getLastD v :=
      ih (fun w hw => hleap w (List.mem_cons_of_mem t hw)) hrest heven hv
    rw [List.mem_cons, hmem, reaches_iff_of_step ht hvseconds hvnanos, List.getLastD_cons]
    apply Iff.intro
    · intro h
      rcases h with rfl | ⟨hreaches, hle⟩
      · exact ⟨.inl rfl, hlast⟩
      · exact ⟨.inr hreaches, hle⟩
    · intro h
      obtain ⟨rfl | hreaches, hle⟩ := h
      · exact .inl rfl
      · exact .inr ⟨hreaches, hle⟩

theorem evenInterval_eq_some {i : TimeInterval} (h : evenInterval ts = some i) :
    ∃ u r, ts = i.start :: u :: r ∧ i.stop = (u :: r).getLastD i.start ∧
      evenlySpaced (u.since i.start) ts = true ∧ (u.since i.start).nanos = 0 ∧
      (u.since i.start).seconds = i.minutes * 60 := by
  simp only [evenInterval] at h
  split at h
  · rename_i t u v r
    obtain ⟨⟨heven, hminutes, hnanos⟩, hmake⟩ := Option.ite_none_right_eq_some.1 h
    cases hi : TimeInterval.make t ((t :: u :: v :: r).getLastD t) (u.since t).wholeMinutes with
    | error e =>
      rw [hi] at hmake
      cases hmake
    | ok j =>
      rw [hi] at hmake
      cases hmake
      obtain ⟨rfl, hstop, hstep⟩ := TimeInterval.make_eq_ok.1 hi
      refine ⟨u, v :: r, rfl, hstop, heven, hnanos, ?_⟩
      have hwhole := Span.wholeSeconds_of_nanos hnanos
      have hdiv := Int.mul_tdiv_add_tmod (u.since i.start).wholeSeconds 60
      rw [Span.wholeMinutes] at hstep
      omega
  · cases h

theorem evenInterval_fits {i : TimeInterval} (h : evenInterval ts = some i) : i.StepFits := by
  obtain ⟨u, _, _, _, _, hnanos, hseconds⟩ := evenInterval_eq_some h
  have hbound := natAbs_wholeSeconds_since u i.start
  rw [Span.wholeSeconds_of_nanos hnanos] at hbound
  rw [TimeInterval.StepFits, maxInt64]
  omega

variable {limit : Option Instant}

theorem limit_all_iff : (limit.all fun l => t ≤ l) = true ↔ ∀ l, limit = some l → t ≤ l := by
  cases limit with
  | none => simp
  | some l => simp

theorem contains_steps_decides {s : Steps} :
    ((steps s).contains limit t).Decides (t ∈ s.times ∧ ∀ l, limit = some l → t ≤ l) := by
  rw [contains, and_comm, ← limit_all_iff]
  split
  · rename_i hlimit
    exact ⟨_, rfl, by simp [hlimit]⟩
  · rename_i hlimit
    exact ⟨_, rfl, by simp [hlimit]⟩

theorem contains_steps_iff {s : Steps} : (steps s).contains limit t = some true ↔
    t ∈ s.times ∧ ∀ l, limit = some l → t ≤ l :=
  (Answer.decides_iff.1 contains_steps_decides).2

theorem contains_intervals (is : Intervals) :
    (intervals is).contains limit t = is.items.anyM fun i => i.contains limit t := by
  rw [contains]
  split
  · rfl
  · rename_i hlimit
    -- no interval holds an instant after the limit
    refine (Answer.anyM_eq_false_iff.2 fun i _ => ?_).symm
    rw [TimeInterval.contains_eq, if_neg]
    rintro ⟨_, hstop, _⟩
    exact hlimit (limit_all_iff.2 (TimeInterval.le_stopBy_iff.1 hstop).2)

theorem contains_of_items_eq {is : Intervals} {i : TimeInterval} (h : is.items = [i]) :
    (intervals is).contains limit t = i.contains limit t := by
  rw [contains_intervals, h, Answer.anyM_cons]
  cases i.contains limit t with
  | none => rfl
  | some b => cases b <;> rfl

theorem contains_ofInterval (i : TimeInterval) :
    (ofInterval i).contains limit t = i.contains limit t := contains_of_items_eq rfl

/-- The steps of all intervals that have begun by the limit fit. -/
def FitsBy (limit : Option Instant) : TimeDimension → Prop
  | steps _ => True
  | intervals is => ∀ i ∈ is.items, (limit.all fun l => i.start ≤ l) = true → i.StepFits

instance (limit : Option Instant) (d : TimeDimension) : Decidable (d.FitsBy limit) :=
  match d with
  | steps _ => .isTrue trivial
  | intervals is => inferInstanceAs (Decidable (∀ i ∈ is.items, _ → i.StepFits))

theorem contains_intervals_decides {is : Intervals} (h : (intervals is).FitsBy limit) :
    ((intervals is).contains limit t).Decides
    (∃ i ∈ is.items, i.contains limit t = some true) := by
  rw [contains_intervals]
  refine Answer.anyM_decides fun i hi => ?_
  exact Answer.decides_iff.2 ⟨TimeInterval.contains_ne_none (h i hi), Iff.rfl⟩

theorem contains_intervals_iff {is : Intervals} (h : (intervals is).FitsBy limit) :
    (intervals is).contains limit t = some true ↔
    ∃ i ∈ is.items, i.contains limit t = some true :=
  (Answer.decides_iff.1 (contains_intervals_decides h)).2

theorem contains_ne_none_of_fitsBy {d : TimeDimension} (h : d.FitsBy limit) :
    d.contains limit t ≠ none := by
  cases d with
  | steps s => exact (Answer.decides_iff.1 contains_steps_decides).1
  | intervals is => exact (Answer.decides_iff.1 (contains_intervals_decides h)).1

theorem ofInstants?_cases {d : TimeDimension} (h : ofInstants? ts = some d) :
    ∃ s, Steps.ofList? ts = some s ∧ ((∃ i, evenInterval s.times = some i ∧ d = ofInterval i) ∨
      (evenInterval s.times = none ∧ d = steps s)) := by
  obtain ⟨s, hs, hd⟩ := Option.map_eq_some_iff.1 h
  refine ⟨s, hs, ?_⟩
  cases heven : evenInterval s.times with
  | none =>
    rw [heven] at hd
    exact .inr ⟨rfl, hd.symm⟩
  | some i =>
    rw [heven] at hd
    exact .inl ⟨i, rfl, hd.symm⟩

theorem fitsBy_of_ofInstants? {d : TimeDimension} (h : ofInstants? ts = some d) :
    d.FitsBy limit := by
  obtain ⟨s, _, ⟨i, heven, rfl⟩ | ⟨_, rfl⟩⟩ := ofInstants?_cases h
  · intro j hj _
    rw [List.mem_singleton.1 hj]
    exact evenInterval_fits heven
  · trivial

/-- Publishing instants as an interval makes no difference to which instants belong to the
dimension. -/
theorem contains_of_ofInstants? {d : TimeDimension}
    (hleap : ∀ u ∈ ts, ¬ u.IsLeap) (ht : ¬ t.IsLeap) (h : ofInstants? ts = some d) :
    (d.contains limit t).Decides (t ∈ ts ∧ ∀ l, limit = some l → t ≤ l) := by
  refine Answer.decides_iff.2 ⟨contains_ne_none_of_fitsBy (fitsBy_of_ofInstants? h), ?_⟩
  obtain ⟨s, hs, hd⟩ := ofInstants?_cases h
  have hmem : t ∈ s.times ↔ t ∈ ts := Steps.mem_times_of_ofList? hs
  have hleap' : ∀ u ∈ s.times, ¬ u.IsLeap :=
    fun u hu => hleap u ((Steps.mem_times_of_ofList? hs).1 hu)
  rcases hd with ⟨i, heven, rfl⟩ | ⟨_, rfl⟩
  · obtain ⟨u, r, hcons, hstop, hspaced, hnanos, hseconds⟩ := evenInterval_eq_some heven
    have hfits := evenInterval_fits heven
    rw [hcons] at hleap' hspaced hmem
    have hmembers := mem_evenlySpaced (u := t) i.step_pos hnanos hseconds hleap'
      (hcons ▸ s.ascending) hspaced
    rw [contains_ofInterval, TimeInterval.contains_iff (hleap' _ List.mem_cons_self) ht,
      and_iff_right hfits, hstop, ← and_assoc, ← hmembers, hmem]
  · rw [contains_steps_iff, hmem]

theorem ofInstants?_eq_none_iff : ofInstants? ts = none ↔ ts = [] := by
  rw [ofInstants?, Option.map_eq_none_iff, Steps.ofList?_eq_none_iff]

end TimeDimension

end LayerAtlas
