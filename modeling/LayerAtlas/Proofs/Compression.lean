import LayerAtlas.Proofs.LastInstants
import Mathlib.Data.Finset.Card

namespace LayerAtlas

open Instant

/-- Two members of a list, one right after the other in increasing order. -/
def Instant.Neighbours (ts : List Instant) (t u : Instant) : Prop :=
  t ∈ ts ∧ u ∈ ts ∧ t < u ∧ ∀ v ∈ ts, v ≤ t ∨ u ≤ v

namespace Instant

variable {ts r : List Instant} {t u v w : Instant}

theorem neighbours_congr {ts' : List Instant} (h : ∀ v, v ∈ ts ↔ v ∈ ts') :
    Neighbours ts t u ↔ Neighbours ts' t u := by
  simp only [Neighbours, h]

theorem neighbours_cons_cons (hasc : Ascending (t :: u :: r)) :
    Neighbours (t :: u :: r) v w ↔ (v = t ∧ w = u) ∨ Neighbours (u :: r) v w := by
  obtain ⟨hfirst, hrest⟩ := List.pairwise_cons.1 hasc
  have htu : t < u := hfirst u List.mem_cons_self
  have hleast : ∀ x ∈ u :: r, u ≤ x := by
    intro x hx
    rcases List.mem_cons.1 hx with rfl | hx
    · exact le_refl x
    · exact le_of_lt ((List.pairwise_cons.1 hrest).1 x hx)
  apply Iff.intro
  · rintro ⟨hv, hw, hlt, hbetween⟩
    rcases List.mem_cons.1 hv with rfl | hv
    · -- what follows the first member is the second, for there is nothing between them
      have hw : w ∈ u :: r := (List.mem_cons.1 hw).resolve_left (ne_of_gt hlt)
      refine .inl ⟨rfl, le_antisymm ?_ (hleast w hw)⟩
      exact (hbetween u (by simp)).resolve_left (not_le.2 htu)
    · have hw : w ∈ u :: r :=
        (List.mem_cons.1 hw).resolve_left
          (ne_of_gt (lt_trans (lt_of_lt_of_le htu (hleast v hv)) hlt))
      exact .inr ⟨hv, hw, hlt, fun x hx => hbetween x (List.mem_cons_of_mem t hx)⟩
  · intro h
    rcases h with ⟨rfl, rfl⟩ | ⟨hv, hw, hlt, hbetween⟩
    · refine ⟨List.mem_cons_self, by simp, htu, ?_⟩
      intro x hx
      rcases List.mem_cons.1 hx with rfl | hx
      · exact .inl (le_refl x)
      · exact .inr (hleast x hx)
    · refine ⟨List.mem_cons_of_mem t hv, List.mem_cons_of_mem t hw, hlt, ?_⟩
      intro x hx
      rcases List.mem_cons.1 hx with rfl | hx
      · exact .inl (le_of_lt (lt_of_lt_of_le htu (hleast v hv)))
      · exact hbetween x hx

end Instant

namespace TimeDimension

variable {ts r : List Instant} {t u : Instant} {step : Span} {limit : Option Instant}
  {d : TimeDimension}

theorem evenlySpaced_iff (hasc : Ascending ts) :
    evenlySpaced step ts = true ↔ ∀ t u, Neighbours ts t u → u.since t = step := by
  induction ts with
  | nil =>
    refine iff_of_true rfl ?_
    rintro t u ⟨ht, _⟩
    cases ht
  | cons t r ih =>
    cases r with
    | nil =>
      refine iff_of_true rfl ?_
      rintro v w ⟨hv, hw, hlt, _⟩
      rw [List.mem_singleton.1 hv, List.mem_singleton.1 hw] at hlt
      exact absurd hlt (lt_irrefl t)
    | cons u r =>
      rw [evenlySpaced, Bool.and_eq_true, decide_eq_true_eq, ih (List.Pairwise.of_cons hasc)]
      simp only [neighbours_cons_cons hasc]
      apply Iff.intro
      · rintro ⟨hfirst, hrest⟩ v w (⟨rfl, rfl⟩ | h)
        · exact hfirst
        · exact hrest v w h
      · intro h
        exact ⟨h t u (.inl ⟨rfl, rfl⟩), fun v w hvw => h v w (.inr hvw)⟩

theorem exists_evenInterval_iff (hleap : ∀ t ∈ ts, ¬ t.IsLeap) (hasc : Ascending ts) :
    (∃ i, evenInterval ts = some i) ↔ 3 ≤ ts.length ∧
      ∃ minutes : Int, ∀ t u, Neighbours ts t u →
        u.since t = { seconds := minutes * 60, nanos := 0 } := by
  apply Iff.intro
  · rintro ⟨i, hi⟩
    have hlength : 3 ≤ ts.length := by
      rw [evenInterval.eq_def] at hi
      split at hi
      · simp
      · cases hi
    obtain ⟨u, r, hts, _, hspaced, hnanos, hseconds⟩ := evenInterval_eq_some hi
    refine ⟨hlength, i.minutes, ?_⟩
    intro v w hvw
    rw [(evenlySpaced_iff hasc).1 hspaced v w hvw, ← hseconds, ← hnanos]
  · rintro ⟨hlength, minutes, hminutes⟩
    match ts, hlength with
    | t :: u :: v :: r, _ =>
      have hstep : u.since t = { seconds := minutes * 60, nanos := 0 } :=
        hminutes t u ((neighbours_cons_cons hasc).2 (.inl ⟨rfl, rfl⟩))
      have hspaced := (evenlySpaced_iff hasc).2 hminutes
      have hfirst := (List.pairwise_cons.1 hasc).1
      -- the first two members are in order, and so the step is positive
      have hpos : 0 < minutes := by
        obtain ⟨hnanos, hseconds⟩ :=
          parts_of_since (hleap u (by simp)) (hleap t (by simp)) (by rw [hstep])
        have hlt := hfirst u List.mem_cons_self
        rw [lt_def, hnanos] at hlt
        simp only [hstep] at hseconds
        omega
      have hordered : t ≤ (t :: u :: v :: r).getLastD t :=
        le_of_lt (hfirst _ (List.getLastD_mem_cons (l := v :: r) (a := u)))
      let i : TimeInterval :=
        { start := t, stop := _, minutes, ordered := hordered, step_pos := hpos }
      have hmake : TimeInterval.make t _ minutes = .ok i :=
        TimeInterval.make_eq_ok.2 ⟨rfl, rfl, rfl⟩
      have hwhole : (u.since t).wholeSeconds = minutes * 60 := by
        rw [hstep]
        exact Span.wholeSeconds_of_nanos rfl
      have hminute : (u.since t).wholeSeconds.tmod 60 = 0 := by
        rw [hwhole]
        exact Int.mul_tmod_left minutes 60
      have hwholeMinutes : (u.since t).wholeMinutes = minutes := by
        rw [Span.wholeMinutes, hwhole]
        exact Int.mul_tdiv_cancel minutes (by decide)
      refine ⟨i, ?_⟩
      simp only [evenInterval]
      rw [if_pos ⟨hstep ▸ hspaced, hminute, by rw [hstep]⟩, hwholeMinutes, hmake]
      rfl

theorem instants_of_ofInstants? (h : ofInstants? ts = some d) (ht : t ∈ d.instants) :
    t ∈ ts := by
  obtain ⟨s, hs, hd⟩ := ofInstants?_cases h
  rw [← Steps.mem_times_of_ofList? hs]
  rcases hd with ⟨i, heven, rfl⟩ | ⟨_, rfl⟩
  · obtain ⟨u, r, hcons, hstop, _⟩ := evenInterval_eq_some heven
    have hends : t = i.start ∨ t = i.stop := by simpa [ofInterval, instants] using ht
    rw [hcons]
    rcases hends with rfl | rfl
    · exact List.mem_cons_self
    · rw [hstop, List.getLastD_cons]
      exact List.mem_cons_of_mem _ List.getLastD_mem_cons
  · exact ht

theorem endsOnStep_of_ofInstants? (hleap : ∀ t ∈ ts, ¬ t.IsLeap) (h : ofInstants? ts = some d) :
    d.EndsOnStep := by
  cases d with
  | steps s => trivial
  | intervals is =>
    obtain ⟨s, _, ⟨i, _, hd⟩ | ⟨_, hd⟩⟩ := ofInstants?_cases h
    · cases hd
      intro j hj
      rw [List.mem_singleton.1 hj]
      have hstart : i.start ∈ ts :=
        instants_of_ofInstants? h (mem_instants_of_mem_items (by simp)).1
      have hstop :
          i.stop ∈ ts := instants_of_ofInstants? h (mem_instants_of_mem_items (by simp)).2
      have hcontains : i.contains none i.stop = some true := by
        rw [← contains_ofInterval]
        exact (contains_of_ofInstants? hleap (hleap _ hstop) h).eq_true ⟨hstop, by simp⟩
      obtain ⟨hfits, hreaches, _⟩ :=
        (TimeInterval.contains_iff (hleap _ hstart) (hleap _ hstop)).1 hcontains
      exact ⟨hfits, hreaches⟩
    · cases hd

theorem isLatest_of_ofInstants? (hleap : ∀ t ∈ ts, ¬ t.IsLeap)
    (hlimit : ∀ l, limit = some l → ¬ l.IsLeap) (h : ofInstants? ts = some d) :
    ∃ o, d.last? limit = some o ∧ IsLatest {t | t ∈ ts ∧ ∀ l, limit = some l → t ≤ l} o := by
  obtain ⟨o, ho⟩ := Option.ne_none_iff_exists'.1 fun hnone =>
    (last?_eq_none_iff.1 hnone).2 (fitsBy_of_ofInstants? h)
  have hinstants : ∀ t ∈ d.instants, ¬ t.IsLeap :=
    fun t ht => hleap t (instants_of_ofInstants? h ht)
  refine ⟨o, ho, isLatest_of_mem_iff
    (isLatest_last? hinstants hlimit (fun _ => endsOnStep_of_ofInstants? hleap h) ho) ?_⟩
  intro t
  rw [Set.mem_ofPred_eq, Set.mem_ofPred_eq]
  apply Iff.intro
  · intro ht
    exact ⟨hleap t ht.1, (contains_of_ofInstants? hleap (hleap t ht.1) h).eq_true ht⟩
  · rintro ⟨ht, hcontains⟩
    exact (Answer.decides_iff.1 (contains_of_ofInstants? hleap ht h)).2.1 hcontains

theorem isLatest_steps {s : Steps} (hleap : ∀ t ∈ ts, ¬ t.IsLeap)
    (hs : Steps.ofList? ts = some s) :
    ∃ o, (steps s).last? limit = some o ∧
      IsLatest {t | t ∈ ts ∧ ∀ l, limit = some l → t ≤ l} o := by
  have hmem : ∀ t, t ∈ s.times ↔ t ∈ ts := fun t => Steps.mem_times_of_ofList? hs
  refine ⟨_, last?_steps s limit, isLatest_of_mem_iff
    (isLatest_steps_of_mem fun t ht => hleap t ((hmem t).1 ht)) ?_⟩
  intro t
  rw [Set.mem_ofPred_eq, Set.mem_ofPred_eq, contains_steps_iff, hmem]
  exact (and_iff_right_of_imp fun h => hleap t h.1).symm

theorem ofInstants?_eq_intervals_iff (hleap : ∀ t ∈ ts, ¬ t.IsLeap)
    (h : ofInstants? ts = some d) :
    (∃ is, d = intervals is) ↔ 3 ≤ ts.toFinset.card ∧
      ∃ minutes : Int, ∀ t u, Neighbours ts t u →
        u.since t = { seconds := minutes * 60, nanos := 0 } := by
  obtain ⟨s, hs, hd⟩ := ofInstants?_cases h
  have hmem : ∀ t, t ∈ s.times ↔ t ∈ ts := fun t => Steps.mem_times_of_ofList? hs
  have hcard : ts.toFinset.card = s.times.length := by
    rw [← List.toFinset_card_of_nodup s.ascending.nodup]
    congr 1
    ext t
    rw [List.mem_toFinset, List.mem_toFinset, hmem]
  have heven := exists_evenInterval_iff (fun t ht => hleap t ((hmem t).1 ht)) s.ascending
  simp only [neighbours_congr hmem] at heven
  rw [hcard, ← heven]
  rcases hd with ⟨i, hi, rfl⟩ | ⟨hnone, rfl⟩
  · exact iff_of_true ⟨_, rfl⟩ ⟨i, hi⟩
  · refine iff_of_false ?_ ?_
    · rintro ⟨is, his⟩
      cases his
    · rintro ⟨i, hi⟩
      rw [hnone] at hi
      cases hi

/-- A list of instants has a dimension unless it is empty, and publishing it as an interval
changes no answer. The dimension holds the members of the list that are not after the limit, as
the plain list of steps does, and the last instant is the greatest of them. -/
theorem ofInstants?_answers (hleap : ∀ t ∈ ts, ¬ t.IsLeap) :
    (ofInstants? ts = none ↔ ts = []) ∧
      ∀ d, ofInstants? ts = some d →
        (∀ limit, (∀ l, limit = some l → ¬ l.IsLeap) →
          (∀ t, ¬ t.IsLeap →
            (d.contains limit t).Decides (t ∈ ts ∧ ∀ l, limit = some l → t ≤ l)) ∧
          (∃ o, d.last? limit = some o ∧
            IsLatest {t | t ∈ ts ∧ ∀ l, limit = some l → t ≤ l} o) ∧
          ∃ s, Steps.ofList? ts = some s ∧ (steps s).last? limit = d.last? limit ∧
            ∀ t, ¬ t.IsLeap → (steps s).contains limit t = d.contains limit t) ∧
        ((∃ is, d = intervals is) ↔ 3 ≤ ts.toFinset.card ∧ ∃ minutes : Int,
          ∀ t u, Neighbours ts t u → u.since t = { seconds := minutes * 60, nanos := 0 }) := by
  refine ⟨ofInstants?_eq_none_iff, ?_⟩
  intro d hd
  refine ⟨?_, ofInstants?_eq_intervals_iff hleap hd⟩
  intro limit hlimit
  have hcontains : ∀ t, ¬ t.IsLeap →
      (d.contains limit t).Decides (t ∈ ts ∧ ∀ l, limit = some l → t ≤ l) :=
    fun t ht => contains_of_ofInstants? hleap ht hd
  obtain ⟨o, ho, hlatest⟩ := isLatest_of_ofInstants? hleap hlimit hd
  obtain ⟨s, hs, _⟩ := ofInstants?_cases hd
  obtain ⟨o', ho', hlatest'⟩ : ∃ o, (steps s).last? limit = some o ∧
      IsLatest {t | t ∈ ts ∧ ∀ l, limit = some l → t ≤ l} o := isLatest_steps hleap hs
  refine ⟨hcontains, ⟨o, ho, hlatest⟩, s, hs, ?_, ?_⟩
  · rw [ho, ho', hlatest'.eq hlatest]
  · intro t ht
    refine (contains_steps_decides.congr ?_).unique (hcontains t ht)
    rw [Steps.mem_times_of_ofList? hs]

/-- Hours with a fraction of a second, out of order and one of them twice. -/
def unsortedHours : List Instant :=
  [ofFirstDay 7200 500000000, ofFirstDay 3600 500000000, ofFirstDay 10800 500000000,
    ofFirstDay 3600 500000000]

/-- Up to a limit between the last two hours the second one is the last. -/
theorem ofInstants?_answers_unsortedHours :
    ∃ d, ofInstants? unsortedHours = some d ∧
      d.contains (some (ofFirstDay 10800 0)) (ofFirstDay 7200 500000000) = some true ∧
      d.last? (some (ofFirstDay 10800 0)) = some (some (ofFirstDay 7200 500000000)) := by
  have hleap : ∀ t ∈ unsortedHours, ¬ t.IsLeap := by decide
  obtain ⟨hnone, hanswers⟩ := ofInstants?_answers hleap
  obtain ⟨d, hd⟩ := Option.ne_none_iff_exists'.1 (mt hnone.1 (List.cons_ne_nil _ _))
  have hlimit : ∀ l, some (ofFirstDay 10800 0) = some l → ¬ l.IsLeap := by
    rintro l ⟨⟩
    decide
  obtain ⟨hcontains, ⟨o, ho, hlatest⟩, _⟩ := (hanswers d hd).1 _ hlimit
  refine ⟨d, hd, (hcontains _ (by decide)).eq_true ⟨by decide, ?_⟩, ?_⟩
  · rintro l ⟨⟩
    decide
  rw [ho, Option.some.injEq]
  refine hlatest.eq ⟨⟨by decide, ?_⟩, ?_⟩
  · rintro l ⟨⟩
    decide
  · rintro t ⟨ht, hle⟩
    have hle := hle _ rfl
    revert t
    decide

end TimeDimension

end LayerAtlas
