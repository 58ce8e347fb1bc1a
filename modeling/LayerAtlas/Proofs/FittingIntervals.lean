import LayerAtlas.Proofs.LastInstants
import LayerAtlas.Proofs.Series

namespace LayerAtlas

open Instant Text

variable {i : TimeInterval} {start stop now t : Instant} {minutes : Int}
  {ts : List Instant} {k : Nat}

namespace TimeSpec

theorem isSeries_of_expand (hstart : ¬ start.IsLeap) (hpos : 0 < minutes)
    (h : (interval (.at start) (.at stop) minutes).expand now = .ok ts) :
    0 < ts.length ∧ IsSeries start minutes ts := by
  obtain ⟨hle, ⟨hnone, _⟩ | ⟨_, _, hprogression⟩⟩ := expandWithin_interval_eq_ok h
  · exact absurd hnone (Int.not_le.2 hpos)
  · exact ⟨List.length_pos_iff.2 (progression_ne_nil hle hprogression),
      isSeries_progression hstart hprogression⟩

theorem IsSeries.parts (h : IsSeries start minutes ts) (hstart : ¬ start.IsLeap)
    (hk : k < ts.length) :
    ts[k].seconds = start.seconds + k * (minutes * 60) ∧ ts[k].nanos = start.nanos :=
  (shift_eq_some_iff hstart).1 (h.getElem hk)

theorem IsSeries.not_isLeap (h : IsSeries start minutes ts) (hstart : ¬ start.IsLeap)
    (hk : k < ts.length) :
    ¬ ts[k].IsLeap := not_isLeap_of_nanos hstart (h.parts hstart hk).2

theorem IsSeries.getElem_le {j : Nat} (h : IsSeries start minutes ts) (hstart : ¬ start.IsLeap)
    (hpos : 0 < minutes) (hk : k < ts.length) (hjk : j ≤ k) : ts[j] ≤ ts[k] := by
  obtain ⟨hjseconds, hjnanos⟩ := h.parts hstart (Nat.lt_of_le_of_lt hjk hk)
  obtain ⟨hkseconds, hknanos⟩ := h.parts hstart hk
  have hsteps : (j : Int) * (minutes * 60) ≤ k * (minutes * 60) :=
    Int.mul_le_mul_of_nonneg_right (by omega) (by omega)
  rw [Instant.le_iff]
  omega

theorem IsSeries.getElem_zero (h : IsSeries start minutes ts) (hne : 0 < ts.length) :
    ts[0] = start := by
  have hfirst := h.getElem hne
  rw [Int.natCast_zero, Int.zero_mul, shift, if_pos rfl] at hfirst
  exact (Option.some.inj hfirst).symm

end TimeSpec

namespace TimeInterval

theorem contains_iff_dvd (hstart : ¬ i.start.IsLeap) (ht : ¬ t.IsLeap)
    (hfits : i.minutes * 60 ≤ maxInt64) :
    i.contains none t = some true ↔ i.start ≤ t ∧ t ≤ i.stop ∧ t.nanos = i.start.nanos ∧
      i.minutes * 60 ∣ t.seconds - i.start.seconds := by
  rw [contains_iff_offset hstart ht, and_iff_right (show i.StepFits from hfits)]
  rfl

theorem dvd_of_contains {u : Instant} (hstart : ¬ i.start.IsLeap)
    (hfits : i.minutes * 60 ≤ maxInt64) (ht : ¬ t.IsLeap) (hu : ¬ u.IsLeap)
    (hseconds : u.seconds = t.seconds + minutes * 60)
    (htcontains : i.contains none t = some true) (hucontains : i.contains none u = some true) :
    i.minutes ∣ minutes := by
  obtain ⟨_, _, _, htdvd⟩ := (contains_iff_dvd hstart ht hfits).1 htcontains
  obtain ⟨_, _, _, hudvd⟩ := (contains_iff_dvd hstart hu hfits).1 hucontains
  have hoffset :
      u.seconds - i.start.seconds = t.seconds - i.start.seconds + minutes * 60 := by omega
  rw [hoffset, Int.dvd_add_right htdvd] at hudvd
  exact Int.dvd_of_mul_dvd_mul_right (by decide) hudvd

theorem contains_of_dvd {u : Instant} {n : Int} (hstart : ¬ i.start.IsLeap)
    (hfits : i.minutes * 60 ≤ maxInt64) (ht : ¬ t.IsLeap)
    (hcontains : i.contains none t = some true) (hn : 0 ≤ n) (hdvd : i.minutes * 60 ∣ n)
    (hseconds : u.seconds = t.seconds + n) (hnanos : u.nanos = t.nanos) (hstop : u ≤ i.stop) :
    i.contains none u = some true := by
  obtain ⟨hle, _, htnanos, htdvd⟩ := (contains_iff_dvd hstart ht hfits).1 hcontains
  have hoffset : u.seconds - i.start.seconds = t.seconds - i.start.seconds + n := by omega
  refine (contains_iff_dvd hstart (not_isLeap_of_nanos ht hnanos) hfits).2
    ⟨?_, hstop, hnanos.trans htnanos, ?_⟩
  · rw [Instant.le_iff] at hle ⊢
    omega
  · rw [hoffset]
    exact Int.dvd_add htdvd hdvd

/-- A published interval holds all instants that a requested one is expanded to exactly if it
holds the first of them, if the last of them is not after its end, and if there is only one of
them or they are whole steps apart. -/
theorem contains_expanded_iff (hstart : ¬ i.start.IsLeap) (hfits : i.minutes * 60 ≤ maxInt64)
    (hfirst : ¬ start.IsLeap) (hpos : 0 < minutes)
    (h : (TimeSpec.interval (.at start) (.at stop) minutes).expand now = .ok ts) :
    (∀ t ∈ ts, (TimeDimension.ofInterval i).contains none t = some true) ↔
      (TimeDimension.ofInterval i).contains none start = some true ∧
        (∃ last, ts.getLast? = some last ∧ last ≤ i.stop) ∧
        (ts.length = 1 ∨ i.minutes ∣ minutes) := by
  obtain ⟨hne, hseries⟩ := TimeSpec.isSeries_of_expand hfirst hpos h
  have hlast : ts.getLast? = some ts[ts.length - 1] := by
    rw [List.getLast?_eq_getElem?, List.getElem?_eq_getElem]
  simp only [TimeDimension.contains_ofInterval]
  apply Iff.intro
  · intro hall
    have hcontains : ∀ k (hk : k < ts.length), i.contains none ts[k] = some true :=
      fun k hk => hall _ (List.getElem_mem hk)
    have hzero : i.contains none start = some true := by
      rw [← hseries.getElem_zero hne]
      exact hcontains 0 hne
    refine ⟨hzero, ⟨_, hlast, ?_⟩, ?_⟩
    · have hend := hcontains (ts.length - 1) (by omega)
      exact ((contains_iff_dvd hstart (hseries.not_isLeap hfirst _) hfits).1 hend).2.1
    · by_cases hone : ts.length = 1
      · exact .inl hone
      · have hsecond : 1 < ts.length := by omega
        obtain ⟨hseconds, _⟩ := hseries.parts hfirst hsecond
        rw [Int.natCast_one, Int.one_mul] at hseconds
        exact .inr
          (dvd_of_contains hstart hfits hfirst (hseries.not_isLeap hfirst hsecond)
          hseconds hzero
          (hcontains 1 hsecond))
  · rintro ⟨hzero, ⟨last, hsome, hstop⟩, hsteps⟩ t ht
    cases hlast.symm.trans hsome
    obtain ⟨k, hk, rfl⟩ := List.getElem_of_mem ht
    obtain ⟨hseconds, hnanos⟩ := hseries.parts hfirst hk
    have hle : ts[k] ≤ ts[ts.length - 1] := hseries.getElem_le hfirst hpos (by omega) (by omega)
    refine contains_of_dvd hstart hfits hfirst hzero ?_ ?_ hseconds hnanos (le_trans hle hstop)
    · exact Int.mul_nonneg (Int.natCast_nonneg k) (by omega)
    · rcases hsteps with hone | hdvd
      · have hk0 : k = 0 := by omega
        rw [hk0, Int.natCast_zero, Int.zero_mul]
        exact Int.dvd_zero _
      · exact Int.dvd_mul_of_dvd_right (Int.mul_dvd_mul hdvd (Int.dvd_refl 60))

/-- Every other hour from one to twenty past three is one and three o'clock, and hourly data
have both, although they end before the request does. -/
theorem contains_expanded_iff_everyOtherHour :
    let i := hourly 10800
    let start := ofFirstDay 3600 0
    let stop := ofFirstDay 12000 0
    let ts := [ofFirstDay 3600 0, ofFirstDay 10800 0]
    ¬ i.start.IsLeap ∧ i.minutes * 60 ≤ maxInt64 ∧ ¬ start.IsLeap ∧ 0 < (120 : Int) ∧
    i.stop < stop ∧
      (TimeSpec.interval (.at start) (.at stop) 120).expand start = .ok ts ∧
      ∀ t ∈ ts, (TimeDimension.ofInterval i).contains none t = some true := by
  intro i start stop ts
  have hleap : ¬ i.start.IsLeap := by decide
  have hfits : i.minutes * 60 ≤ maxInt64 := by decide
  have hfirst : ¬ start.IsLeap := by decide
  have hexpand : (TimeSpec.interval (.at start) (.at stop) 120).expand start = .ok ts := rfl
  have hsteps : ts.length = 1 ∨ i.minutes ∣ 120 := by decide
  refine ⟨hleap, hfits, hfirst, by decide, by decide, hexpand, ?_⟩
  exact (contains_expanded_iff hleap hfits hfirst (by decide) hexpand).2
    ⟨by decide, ⟨ofFirstDay 10800 0, rfl, by decide⟩, hsteps⟩

end TimeInterval

end LayerAtlas
