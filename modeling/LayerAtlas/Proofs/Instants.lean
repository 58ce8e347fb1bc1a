import LayerAtlas.Time.Instant
import Mathlib.Order.Defs.LinearOrder

namespace LayerAtlas

namespace Instant

variable {t u v : Instant}

theorem le_iff :
    t ≤ u ↔ t.seconds < u.seconds ∨ (t.seconds = u.seconds ∧ t.nanos ≤ u.nanos) := by
  rw [le_def, lt_def]
  omega

instance : LinearOrder Instant where
  le_refl t := by rw [le_iff]; omega
  le_trans t u v htu huv := by rw [le_iff] at *; omega
  lt_iff_le_not_ge t u := by rw [lt_def, le_iff, le_iff]; omega
  le_antisymm t u htu hut := by rw [le_iff] at htu hut; exact eq_iff.2 (by omega)
  le_total t u := by rw [le_iff, le_iff]; omega
  toDecidableLE := inferInstance
  toDecidableEq := inferInstance
  toDecidableLT := inferInstance

theorem le_earlier_iff : t ≤ u.earlier v ↔ t ≤ u ∧ t ≤ v := by
  rw [earlier]
  split
  · rename_i h
    apply Iff.intro
    · intro htv
      exact ⟨le_trans htv (le_of_lt h), htv⟩
    · exact And.right
  · rename_i h
    apply Iff.intro
    · intro htu
      exact ⟨htu, le_trans htu (not_lt.1 h)⟩
    · exact And.left

theorem of?_eq_some_iff {seconds : Int} {nanos : Nat} :
    of? seconds nanos = some u ↔ u.seconds = seconds ∧ u.nanos = nanos := by
  rw [of?]
  apply Iff.intro
  · intro h
    split at h
    · split at h
      · split at h
        · cases h
          exact ⟨rfl, rfl⟩
        · cases h
      · cases h
    · cases h
  · intro h'
    obtain ⟨rfl, rfl⟩ := h'
    rw [dif_pos u.inRange, dif_pos u.nanos_lt, dif_pos u.leap_ends_minute]

theorem shift_eq_some_iff (ht : ¬ t.IsLeap) {delta : Int} :
    t.shift delta = some u ↔ u.seconds = t.seconds + delta ∧ u.nanos = t.nanos := by
  by_cases h : delta = 0
  · rw [shift, if_pos h, h, Int.add_zero, Option.some.injEq, eq_comm, eq_iff]
  · rw [shift, if_neg h, if_neg ht, of?_eq_some_iff]

theorem seconds_of_shift {delta : Int} (hpos : 0 < delta) (h : t.shift delta = some u) :
    u.seconds = t.seconds + delta := by
  rw [shift, if_neg (Int.ne_of_gt hpos), if_pos hpos] at h
  split at h
  · exact (of?_eq_some_iff.1 h).1
  · exact (of?_eq_some_iff.1 h).1

theorem since_nanos_eq_zero_iff (ht : ¬ t.IsLeap) (hu : ¬ u.IsLeap) :
    (t.since u).nanos = 0 ↔ t.nanos = u.nanos := by
  rw [IsLeap] at ht hu
  simp only [since]
  omega

theorem since_seconds (ht : ¬ t.IsLeap) (hu : ¬ u.IsLeap) (h : t.nanos = u.nanos) :
    (t.since u).seconds = t.seconds - u.seconds := by
  simp only [since]
  rw [if_neg (fun hleap => hu hleap.2), if_neg (fun hleap => ht hleap.2), h]
  omega

theorem parts_of_since (ht : ¬ t.IsLeap) (hu : ¬ u.IsLeap) (h : (t.since u).nanos = 0) :
    t.nanos = u.nanos ∧ t.seconds = u.seconds + (t.since u).seconds := by
  have hnanos := (since_nanos_eq_zero_iff ht hu).1 h
  have hseconds := since_seconds ht hu hnanos
  exact ⟨hnanos, by omega⟩

/-- A whole number of steps of so many minutes leads from one instant to the other. -/
def Reaches (t : Instant) (minutes : Int) (u : Instant) : Prop :=
  ∃ k : Nat, t.shift (k * (minutes * 60)) = some u

variable {minutes : Int}

theorem reaches_iff (ht : ¬ t.IsLeap) :
    t.Reaches minutes u ↔
    u.nanos = t.nanos ∧ ∃ k : Nat, u.seconds = t.seconds + k * (minutes * 60) := by
  simp only [Reaches, shift_eq_some_iff ht]
  apply Iff.intro
  · intro h
    obtain ⟨k, hseconds, hnanos⟩ := h
    exact ⟨hnanos, k, hseconds⟩
  · intro h
    obtain ⟨hnanos, k, hseconds⟩ := h
    exact ⟨k, hseconds, hnanos⟩

theorem not_isLeap_of_nanos (ht : ¬ t.IsLeap) (h : u.nanos = t.nanos) : ¬ u.IsLeap := by
  unfold IsLeap at *
  omega

theorem Reaches.le (h : t.Reaches minutes u) (ht : ¬ t.IsLeap) (hpos : 0 < minutes) :
    t ≤ u := by
  obtain ⟨hnanos, k, hseconds⟩ := (reaches_iff ht).1 h
  have hnonneg : 0 ≤ (k : Int) * (minutes * 60) :=
    Int.mul_nonneg (Int.natCast_nonneg k) (by omega)
  rw [le_iff]
  omega

theorem reaches_self (minutes : Int) (t : Instant) : t.Reaches minutes t := by
  refine ⟨0, ?_⟩
  rw [Int.natCast_zero, Int.zero_mul, shift, if_pos rfl]

theorem reaches_iff_of_step (ht : ¬ t.IsLeap) (hseconds : v.seconds = t.seconds + minutes * 60)
    (hnanos : v.nanos = t.nanos) : t.Reaches minutes u ↔ u = t ∨ v.Reaches minutes u := by
  rw [reaches_iff ht, reaches_iff (not_isLeap_of_nanos ht hnanos), hseconds, hnanos, eq_iff]
  apply Iff.intro
  · intro h
    obtain ⟨hu, k, hk⟩ := h
    cases k with
    | zero =>
      rw [Int.natCast_zero, Int.zero_mul, Int.add_zero] at hk
      exact .inl ⟨hk, hu⟩
    | succ k =>
      refine .inr ⟨hu, k, ?_⟩
      rw [hk, Int.natCast_succ, Int.add_mul]
      omega
  · intro h
    rcases h with ⟨hs, hu⟩ | ⟨hu, k, hk⟩
    · exact ⟨hu, 0, by rw [hs, Int.natCast_zero, Int.zero_mul, Int.add_zero]⟩
    · refine ⟨hu, k + 1, ?_⟩
      rw [hk, Int.natCast_succ, Int.add_mul]
      omega

theorem not_isLeap_earlier (ht : ¬ t.IsLeap) (hu : ¬ u.IsLeap) : ¬ (t.earlier u).IsLeap := by
  rw [earlier]
  split
  · exact hu
  · exact ht

theorem wholeSeconds_since (ht : ¬ t.IsLeap) (hv : ¬ v.IsLeap) (h : t ≤ v) :
    (v.since t).wholeSeconds = v.seconds - t.seconds - if v.nanos < t.nanos then 1 else 0 := by
  rw [le_iff] at h
  unfold IsLeap at ht hv
  simp only [Span.wholeSeconds, since, IsLeap, ht, hv, and_false, if_false]
  split
  · omega
  · split
    · omega
    · omega

/-- The last instant that is not in a leap second. -/
def maximum : Instant where
  seconds := 8210266876799
  nanos := 999999999
  inRange := by decide
  nanos_lt := by decide
  leap_ends_minute := by decide

theorem parts_since (h : t ≤ u) (hu : u ≤ maximum) :
    t.seconds + (u.since t).seconds ≤ maximum.seconds ∧
      (0 ≤ (u.since t).seconds ∨ ((u.since t).seconds = -1 ∧ (u.since t).nanos ≠ 0)) := by
  have ht := t.leap_ends_minute
  have hleap := u.leap_ends_minute
  have htnanos := t.nanos_lt
  have hunanos := u.nanos_lt
  rw [le_iff] at h hu
  simp only [maximum] at hu ⊢
  simp only [since]
  unfold secondOfDay IsLeap
  split
  · omega
  · split
    · omega
    · omega

theorem wholeSeconds_since_bounds (h : t ≤ u) (hu : u ≤ maximum) :
    0 ≤ (u.since t).wholeSeconds ∧ t.seconds + (u.since t).wholeSeconds ≤ maximum.seconds := by
  have ht : t.seconds ≤ maximum.seconds := t.inRange.2
  obtain ⟨hmost, hleast⟩ := parts_since h hu
  rw [Span.wholeSeconds]
  split
  · omega
  · omega

/-- The calendar is short enough for the seconds between any two instants, in order or not. -/
theorem natAbs_wholeSeconds_since (t u : Instant) :
    (t.since u).wholeSeconds.natAbs ≤ 20000000000000 := by
  have ht := t.inRange
  have hu := u.inRange
  have htnanos := t.nanos_lt
  have hunanos := u.nanos_lt
  have hseconds : (t.since u).seconds.natAbs < 20000000000000 := by
    simp only [since]
    split
    · omega
    · split
      · omega
      · omega
  rw [Span.wholeSeconds]
  split
  · omega
  · omega

theorem isSome_of? {seconds : Int} {nanos : Nat} (hleast : -8334601228800 ≤ seconds)
    (hmost : seconds ≤ maximum.seconds) (hnanos : nanos < 1000000000) :
    (of? seconds nanos).isSome = true := by
  have hleap : 1000000000 ≤ nanos → seconds % 60 = 59 := fun h => absurd hnanos (Nat.not_lt.2 h)
  rw [of?, dif_pos ⟨hleast, hmost⟩, dif_pos (by omega), dif_pos hleap]
  rfl

theorem isSome_shift {n : Int} (hnonneg : 0 ≤ n) (hn : t.seconds + n ≤ maximum.seconds) :
    (t.shift n).isSome = true := by
  have hrange := t.inRange
  have hnanos := t.nanos_lt
  rw [shift]
  split
  · rfl
  · split
    · rw [if_pos (by omega)]
      exact isSome_of? (by omega) hn (by omega)
    · rename_i hleap
      exact isSome_of? (by omega) hn (Nat.not_le.1 hleap)

theorem since_self (t : Instant) : t.since t = { seconds := 0, nanos := 0 } := by
  simp [since]

theorem le_maximum (h : ¬ t.IsLeap) : t ≤ maximum := by
  have hrange := t.inRange
  rw [IsLeap] at h
  rw [le_iff]
  simp only [maximum]
  omega

theorem wholeSeconds_since_nonneg (hv : ¬ v.IsLeap) (h : t ≤ v) :
    0 ≤ (v.since t).wholeSeconds :=
  (wholeSeconds_since_bounds h (le_maximum hv)).1

theorem le_iff_le_wholeSeconds (ht : ¬ t.IsLeap) (hv : ¬ v.IsLeap) (h : t ≤ v) {n : Int}
    (hseconds : u.seconds = t.seconds + n) (hnanos : u.nanos = t.nanos) :
    u ≤ v ↔ n ≤ (v.since t).wholeSeconds := by
  rw [wholeSeconds_since ht hv h, le_iff, hseconds, hnanos]
  split
  · omega
  · omega

theorem exists_shift (hv : ¬ v.IsLeap) (h : t ≤ v) {n : Int} (hnonneg : 0 ≤ n)
    (hn : n ≤ (v.since t).wholeSeconds) : ∃ u, t.shift n = some u := by
  obtain ⟨_, hmost⟩ := wholeSeconds_since_bounds h (le_maximum hv)
  exact Option.isSome_iff_exists.1 (isSome_shift hnonneg (by omega))

theorem secondOfDay_bounds (t : Instant) : 0 ≤ t.secondOfDay ∧ t.secondOfDay < 86400 := by
  rw [secondOfDay]
  omega

theorem truncate_seconds (t : Instant) : t.truncate.seconds = t.seconds := by
  rw [truncate]
  split
  · rfl
  · rfl

def IsWhole (t : Instant) : Prop := t.nanos % 1000000000 = 0

instance (t : Instant) : Decidable t.IsWhole := inferInstanceAs (Decidable (_ = _))

theorem truncate_nanos (t : Instant) :
    t.truncate.nanos = if 1000000000 ≤ t.nanos then 1000000000 else 0 := by
  rw [truncate]
  by_cases hleap : t.IsLeap
  · rw [dif_pos hleap]
    exact (if_pos hleap).symm
  · rw [dif_neg hleap]
    exact (if_neg hleap).symm

theorem truncate_of_isWhole (h : t.IsWhole) : t.truncate = t := by
  have hlt := t.nanos_lt
  rw [IsWhole] at h
  rw [eq_iff, truncate_nanos]
  refine ⟨t.truncate_seconds, ?_⟩
  split
  · omega
  · omega

theorem truncate_of_nanos (h : t.nanos = 0) : t.truncate = t := by
  apply truncate_of_isWhole
  rw [IsWhole, h]

theorem truncate_le_truncate (h : t ≤ u) : t.truncate ≤ u.truncate := by
  rw [le_iff] at h
  rw [le_iff, truncate_seconds, truncate_seconds, truncate_nanos, truncate_nanos]
  split
  · split
    · omega
    · omega
  · omega

theorem truncate_le (t : Instant) : t.truncate ≤ t := by
  rw [le_iff, truncate_seconds, truncate_nanos]
  split
  · omega
  · omega

theorem eq_of_reaches_of_shift (ht : ¬ t.IsLeap) (hpos : 0 < minutes)
    (h : t.shift (minutes * 60) = none) (hreaches : t.Reaches minutes u) : u = t := by
  obtain ⟨hnanos, k, hk⟩ := (reaches_iff ht).1 hreaches
  cases k with
  | zero =>
    rw [Int.natCast_zero, Int.zero_mul, Int.add_zero] at hk
    exact eq_iff.2 ⟨hk, hnanos⟩
  | succ k =>
    have hu : ¬ u.IsLeap := not_isLeap_of_nanos ht hnanos
    have hle : t ≤ u := hreaches.le ht hpos
    have hsteps : 0 ≤ (k : Int) * (minutes * 60) :=
      Int.mul_nonneg (Int.natCast_nonneg k) (by omega)
    rw [Int.natCast_succ, Int.add_mul, Int.one_mul] at hk
    obtain ⟨v, hv⟩ := exists_shift hu hle (n := minutes * 60) (by omega) (by
      rw [wholeSeconds_since ht hu hle, hnanos, if_neg (Nat.lt_irrefl _)]
      omega)
    rw [h] at hv
    cases hv

/-- An instant of the first day of 1970; seconds and nanoseconds beyond its end begin anew. -/
def ofFirstDay (second nanos : Nat) : Instant where
  seconds := (second % 86400 : Nat)
  nanos := nanos % 1000000000
  inRange := by omega
  nanos_lt := by omega
  leap_ends_minute := by omega

/-- The instant with these parts, or the start of 1970 if there is none. -/
def ofParts (seconds : Int) (nanos : Nat) : Instant := (of? seconds nanos).getD (ofFirstDay 0 0)

end Instant

theorem Span.wholeSeconds_of_nanos {s : Span} (h : s.nanos = 0) :
    s.wholeSeconds = s.seconds := by
  rw [wholeSeconds, if_neg (fun hs => hs.2 h)]

end LayerAtlas
