import LayerAtlas.Proofs.Expansion

namespace LayerAtlas

open Instant

variable {now t u : Instant} {minutes : Int} {ts : List Instant}

theorem Instant.shift_shift (ht : ¬ t.IsLeap) {m : Int} (h : t.shift m = some u) (n : Int) :
    u.shift n = t.shift (m + n) := by
  obtain ⟨hseconds, hnanos⟩ := (shift_eq_some_iff ht).1 h
  apply Option.ext
  intro v
  rw [shift_eq_some_iff (not_isLeap_of_nanos ht hnanos), shift_eq_some_iff ht, hseconds, hnanos,
    Int.add_assoc]

namespace TimeSpec

/-- The list begins with the start, and each instant is a step after the one before it. -/
def IsSeries (start : Instant) (minutes : Int) (ts : List Instant) : Prop :=
  ∀ k < ts.length, ts[k]? = start.shift (k * (minutes * 60))

theorem isSeries_nil (start : Instant) (minutes : Int) : IsSeries start minutes [] := by
  intro k hk
  exact absurd hk (Nat.not_lt_zero k)

theorem IsSeries.cons (ht : ¬ t.IsLeap) (hnext : ts = [] ∨ t.shift (minutes * 60) = some u)
    (h : IsSeries u minutes ts) : IsSeries t minutes (t :: ts) := by
  intro k hk
  cases k with
  | zero => rw [List.getElem?_cons_zero, Int.natCast_zero, Int.zero_mul, shift, if_pos rfl]
  | succ k =>
    have hk' : k < ts.length := Nat.lt_of_succ_lt_succ hk
    have hstep : t.shift (minutes * 60) = some u := by
      apply hnext.resolve_left
      rintro rfl
      exact Nat.not_lt_zero k hk'
    rw [List.getElem?_cons_succ, h k hk', shift_shift ht hstep, Int.natCast_succ,
      Int.add_mul, Int.one_mul, Int.add_comm]

theorem isSeries_progression {stop : Instant} {room : Nat} (ht : ¬ t.IsLeap)
    (h : progression (minutes * 60) stop room t = some ts) : IsSeries t minutes ts := by
  have hwalks := walks_of_progression h
  clear h
  induction hwalks with
  | @past t => exact isSeries_nil t minutes
  | @last t => exact (isSeries_nil t minutes).cons ht (.inl rfl)
  | step _ hnext _ ih =>
    have hu := not_isLeap_of_nanos ht ((shift_eq_some_iff ht).1 hnext).2
    exact (ih hu).cons ht (.inr hnext)

variable {start stop : Instant}

theorem IsSeries.getElem (h : IsSeries start minutes ts) {k : Nat} (hk : k < ts.length) :
    start.shift (k * (minutes * 60)) = some ts[k] := by
  rw [← h k hk, List.getElem?_eq_getElem hk]

theorem IsSeries.ascending (h : IsSeries start minutes ts) (hstart : ¬ start.IsLeap)
    (hpos : 0 < minutes) :
    Ascending ts := by
  apply List.pairwise_iff_getElem.2
  intro i j hi hj hij
  obtain ⟨hiseconds, _⟩ := (shift_eq_some_iff hstart).1 (h.getElem hi)
  obtain ⟨hjseconds, _⟩ := (shift_eq_some_iff hstart).1 (h.getElem hj)
  have hless : (i : Int) * (minutes * 60) < j * (minutes * 60) :=
    Int.mul_lt_mul_of_pos_right (by omega) (by omega)
  rw [lt_def]
  omega

/-- A series that holds what its start reaches up to the end has as many members as steps lead
to an instant up to the end, the step of no length counted. -/
theorem IsSeries.lt_length_iff (h : IsSeries start minutes ts) (hstart : ¬ start.IsLeap)
    (hpos : 0 < minutes) (hmem : ∀ u, u ∈ ts ↔ start.Reaches minutes u ∧ u ≤ stop) (k : Nat) :
    k < ts.length ↔ ∃ t, start.shift (k * (minutes * 60)) = some t ∧ t ≤ stop := by
  apply Iff.intro
  · intro hk
    exact ⟨ts[k], h.getElem hk, ((hmem _).1 (List.getElem_mem hk)).2⟩
  · rintro ⟨t, ht, hle⟩
    obtain ⟨j, hj, rfl⟩ := List.getElem_of_mem ((hmem t).2 ⟨⟨k, ht⟩, hle⟩)
    obtain ⟨hkseconds, _⟩ := (shift_eq_some_iff hstart).1 ht
    obtain ⟨hjseconds, _⟩ := (shift_eq_some_iff hstart).1 (h.getElem hj)
    -- one instant is one number of steps away
    have hsame : (k : Int) * (minutes * 60) = j * (minutes * 60) := by omega
    have hkj : (k : Int) = j := Int.eq_of_mul_eq_mul_right (by omega) hsame
    omega

theorem le_maxStep_iff : minutes ≤ maxStep ↔ minutes * 60000 ≤ Text.maxInt64 := by
  rw [maxStep, Text.maxInt64]
  omega

/-- An interval that ends before it starts is refused, one whose step is not a whole minute
stands for nothing, and one whose step is too long is refused: its milliseconds have to be a
number of 64 bits. Every other interval stands for the instants that its start reaches in whole
steps, in order and up to its end, if there are not too many. -/
theorem expand_interval {start stop : TimePoint} (hleap : ¬ (start.resolve now).IsLeap) :
    let first := start.resolve now
    let last := stop.resolve now
    let expanded := (interval start stop minutes).expand now
    (last < first →
      expanded =
        .error (.invalidInterval (Timestamp.write first ++ "/" ++ Timestamp.write last))) ∧
    (first ≤ last → minutes ≤ 0 → expanded = .ok []) ∧
    (first ≤ last → Text.maxInt64 < minutes * 60000 →
      expanded = .error (.malformedDuration (Duration.write minutes))) ∧
    (first ≤ last → 0 < minutes → minutes * 60000 ≤ Text.maxInt64 →
      ∃ ts, IsSeries first minutes ts ∧ Ascending ts ∧
        (∀ k : Nat, k < ts.length ↔ ∃ t, first.shift (k * (minutes * 60)) = some t ∧ t ≤ last) ∧
        expanded = if ts.length ≤ maxTimeValues then .ok ts
        else .error (.tooManyValues maxTimeValues)) := by
  intro first last expanded
  have hexpanded :
      expanded = expandWithin now maxTimeValues (interval (.at first) (.at last) minutes) := rfl
  rw [hexpanded]
  refine ⟨?_, ?_, ?_, ?_⟩
  · intro hlt
    rw [expandWithin]
    exact if_pos hlt
  · intro hle hnone
    rw [expandWithin]
    exact (if_neg (not_lt.2 hle)).trans (if_pos hnone)
  · intro hle hlong
    have hpos : ¬ minutes ≤ 0 := by
      rw [Text.maxInt64] at hlong
      omega
    have hstep : maxStep < minutes := Int.not_le.1 (mt le_maxStep_iff.1 (Int.not_le.2 hlong))
    rw [expandWithin]
    exact (if_neg (not_lt.2 hle)).trans ((if_neg hpos).trans (if_pos hstep))
  · intro hle hpos hshort
    obtain ⟨ts, hexpands, hmem⟩ :=
      exists_expands_interval hpos (le_maxStep_iff.2 hshort) hleap hle
    have hfits :
        expandWithin now ts.length (interval (.at first) (.at last) minutes) = .ok ts :=
      (hexpands now ts.length).trans (if_pos (Nat.le_refl _))
    obtain ⟨_, ⟨hnone, _⟩ | ⟨_, _, hprogression⟩⟩ := expandWithin_interval_eq_ok hfits
    · exact absurd hpos (Int.not_lt.2 hnone)
    · have hseries : IsSeries first minutes ts := isSeries_progression hleap hprogression
      exact ⟨ts, hseries, hseries.ascending hleap hpos, hseries.lt_length_iff hleap hpos hmem,
        hexpands now maxTimeValues⟩

/-- A minute and a half before the last second there is. -/
def nearTheEnd : Instant := ofParts (maximum.seconds - 90) 0

/-- Every minute up to the present, which is the last instant of all: there is one more, and no
instant for another. -/
theorem expand_interval_nearTheEnd :
    ∃ ts, ¬ nearTheEnd.IsLeap ∧ nearTheEnd ≤ maximum ∧ 0 < (1 : Int) ∧
      1 * 60000 ≤ Text.maxInt64 ∧
      nearTheEnd.shift 120 = none ∧ ts.length = 2 ∧ Ascending ts ∧ IsSeries nearTheEnd 1 ts ∧
      (interval (.at nearTheEnd) .current 1).expand maximum = .ok ts := by
  have hleap : ¬ nearTheEnd.IsLeap := by decide
  have hle : nearTheEnd ≤ maximum := by decide
  have hshort : 1 * 60000 ≤ Text.maxInt64 := by decide
  have hend : nearTheEnd.shift 120 = none := by decide
  obtain ⟨_, _, _, hseries⟩ := @expand_interval maximum 1 (.at nearTheEnd) .current hleap
  obtain ⟨ts, hts, hascending, hlength, hexpanded⟩ := hseries hle Int.one_pos hshort
  have hone : 1 < ts.length :=
    (hlength 1).2 ⟨ofParts (maximum.seconds - 30) 0, by decide, by decide⟩
  have htwo : ¬ 2 < ts.length := by
    rw [hlength 2]
    rintro ⟨t, ht, _⟩
    cases hend.symm.trans ht
  have hcount : ts.length = 2 := by omega
  refine ⟨ts, hleap, hle, Int.one_pos, hshort, hend, hcount, hascending, hts, ?_⟩
  rw [hexpanded, hcount]
  rfl

end TimeSpec

end LayerAtlas
