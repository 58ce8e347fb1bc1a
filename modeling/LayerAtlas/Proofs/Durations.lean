import LayerAtlas.Proofs.DurationForms
import LayerAtlas.Time.Dimension
import Mathlib.Data.Set.Function

namespace LayerAtlas.Duration

open Text

variable {designator c : Char} {h m n : Nat}

def fieldText (n : Nat) (designator : Char) : List Char :=
  if n = 0 then [] else digitsOf n ++ [designator]

def fields (h m : Nat) : List Char := 'P' :: 'T' :: (fieldText h 'H' ++ fieldText m 'M')

def numeral (n : Nat) : Option DigitRun := if n = 0 then none else some (.ofNat 0 n)

theorem amount_numeral (n : Nat) : amount (numeral n) = n := by
  rw [numeral]
  split
  · rename_i hzero
    exact hzero.symm
  · exact DigitRun.value_ofNat 0 n

theorem field_numeral (n : Nat) (designator : Char) :
    field (numeral n) designator = fieldText n designator := by
  have hdigits : padded 0 n = digitsOf n := by
    rw [padded, Nat.zero_sub, List.replicate_zero, List.nil_append]
  rw [numeral, fieldText, ← hdigits]
  split
  · rfl
  · rfl

def published (h m : Nat) : Form := ⟨none, some ⟨numeral h, numeral m, none⟩⟩

theorem text_published (h m : Nat) : (published h m).text = fields h m := by
  simp [published, Form.text, Form.timeText, field_numeral, fields]

theorem total_published (h m : Nat) : (published h m).total = h * 60 + m := by
  simp [published, Form.total, Form.hours, Form.minutes, Form.seconds, amount_numeral]

theorem inBounds_published_iff : (published h m).InBounds ↔ h * 60 + m ≤ maxMinutes := by
  rw [← total_published]
  apply Iff.intro
  · exact Form.InBounds.total
  · intro htotal
    have hfits := htotal
    rw [total_published] at hfits
    have hhours : amount (published h m).hours = h := amount_numeral h
    have hminutes : amount (published h m).minutes = m := amount_numeral m
    exact ⟨Nat.zero_le _, by omega, by omega, Nat.zero_le _, htotal⟩

theorem minutesOf_published : minutesOf (fields h m) = some n ↔
    h * 60 + m ≤ maxMinutes ∧ h * 60 + m = n := by
  rw [← text_published, Form.minutesOf_text_eq_some_iff, inBounds_published_iff,
    total_published]

theorem showInt_natCast (n : Nat) : showInt n = String.ofList (digitsOf n) := rfl

theorem toList_write {minutes : Int} (hpos : 0 < minutes) :
    (write minutes).toList = fields (minutes.toNat / 60) (minutes.toNat % 60) := by
  obtain ⟨n, rfl⟩ := Int.eq_ofNat_of_zero_le (Int.le_of_lt hpos)
  have hhours : (n : Int).tdiv 60 = (n / 60 : Nat) := rfl
  have hrest : (n : Int).tmod 60 = (n % 60 : Nat) := rfl
  rw [write, hhours, hrest, Int.toNat_natCast]
  simp only [Int.natCast_eq_zero, showInt_natCast, fields, fieldText]
  split
  · rename_i hzero
    rw [if_neg (by omega)]
    simp
  · split
    · simp
    · simp

theorem isMark_of_mem_write {minutes : Int} (hpos : 0 < minutes)
    (h : c ∈ (write minutes).toList) : isMark c = true := by
  rw [toList_write hpos, ← text_published] at h
  exact Form.isMark_of_mem_text h

theorem read_write {minutes : Int} (hpos : 0 < minutes) :
    read (write minutes) =
      if minutes ≤ maxMinutes then .ok minutes.toNat
      else .error (.malformedDuration (write minutes)) := by
  have hminutes : ∀ n, minutesOf (write minutes).toList = some n ↔ minutes.toNat ≤ maxMinutes ∧
      minutes.toNat = n := by
    intro n
    rw [toList_write hpos, minutesOf_published, Nat.div_add_mod']
  split
  · rw [read_eq_ok_iff, hminutes]
    exact ⟨by omega, rfl⟩
  · apply read_eq_error
    intro n hn
    have hfits := (hminutes n).1 hn
    omega

theorem hyphen_mem_showInt {n : Int} (hneg : n < 0) : '-' ∈ (showInt n).toList := by
  cases n with
  | ofNat n => exact absurd hneg (Int.not_lt.2 (Int.natCast_nonneg n))
  | negSucc n =>
    rw [showInt, String.toList_ofList]
    exact List.mem_cons_self

/-- Both parts of a negative duration have its sign, and the one that is not zero is written
with it. -/
theorem hyphen_mem_write {minutes : Int} (hneg : minutes < 0) :
    '-' ∈ (write minutes).toList := by
  have hopposite : 0 ≤ (-minutes).tdiv 60 := Int.tdiv_nonneg (by omega) (by decide)
  rw [Int.neg_tdiv] at hopposite
  have hparts : minutes.tdiv 60 * 60 + minutes.tmod 60 = minutes :=
    Int.tdiv_mul_add_tmod minutes 60
  rw [write]
  by_cases hzero : minutes.tdiv 60 = 0
  · have hsign : '-' ∈ (showInt (minutes.tmod 60)).toList := hyphen_mem_showInt (by omega)
    rw [if_pos hzero]
    simp [hsign]
  · have hsign : '-' ∈ (showInt (minutes.tdiv 60)).toList := hyphen_mem_showInt (by omega)
    rw [if_neg hzero]
    split
    · simp [hsign]
    · simp [hsign]

theorem read_write_of_nonneg {minutes : Int} (hnonneg : 0 ≤ minutes)
    (hfits : minutes ≤ maxInt64) :
    read (write minutes) = .ok minutes.toNat := by
  obtain rfl | hpos := hnonneg.eq_or_lt
  · decide
  · rw [read_write hpos]
    exact if_pos hfits

theorem read_write_of_neg {minutes : Int} (hneg : minutes < 0) :
    read (write minutes) = .error (.malformedDuration (write minutes)) := by
  have hmalformed : Malformed (write minutes).toList :=
    .character '-' (hyphen_mem_write hneg) rfl (by decide)
  apply read_eq_error
  intro n hn
  obtain ⟨_, _, _, _, hfound, _⟩ := minutesOf_eq_some_iff.1 hn
  exact hmalformed.not_found hfound

theorem injOn_write : Set.InjOn write {minutes | 0 ≤ minutes ∧ minutes ≤ maxInt64} := by
  rintro m ⟨hm, hmfits⟩ n ⟨hn, hnfits⟩ heq
  have hread := read_write_of_nonneg hm hmfits
  rw [heq, read_write_of_nonneg hn hnfits] at hread
  rw [← Int.toNat_of_nonneg hm, ← Int.toNat_of_nonneg hn, Except.ok.inj hread]

def steps : Set Int := {minutes | minutes ≤ maxInt64 ∧ ∃ i : TimeInterval, i.minutes = minutes}

theorem steps_subset : steps ⊆ {minutes | 0 ≤ minutes ∧ minutes ≤ maxInt64} := by
  rintro _ ⟨hfits, i, rfl⟩
  exact ⟨Int.le_of_lt i.step_pos, hfits⟩

/-- Every number of minutes that is not negative is read back from its published form, up to the
greatest of 64 bits, and the form of a negative one is malformed. So no two steps of time
dimensions are published alike. -/
theorem read_published :
    (∀ minutes : Int, 0 ≤ minutes → minutes ≤ maxInt64 →
      read (write minutes) = .ok minutes.toNat) ∧
    (∀ minutes : Int, minutes < 0 →
      read (write minutes) = .error (.malformedDuration (write minutes))) ∧
    Set.InjOn write steps := by
  refine ⟨?_, ?_, injOn_write.mono steps_subset⟩
  · intro minutes hnonneg hfits
    exact read_write_of_nonneg hnonneg hfits
  · intro minutes hneg
    exact read_write_of_neg hneg

/-- The greatest and the least number of 64 bits, and the steps of an hour and of a minute. -/
theorem read_published_extremes :
    read "PT153722867280912930H7M" = .ok 9223372036854775807 ∧
      read "PT-153722867280912930H-8M" =
        .error (.malformedDuration "PT-153722867280912930H-8M") ∧
      60 ∈ steps ∧ 1 ∈ steps ∧ write 60 ≠ write 1 := by
  have hgreatest : write 9223372036854775807 = "PT153722867280912930H7M" := by decide +kernel
  have hleast : write (-9223372036854775808) = "PT-153722867280912930H-8M" := by decide +kernel
  let midnight : Instant :=
    { seconds := 0, inRange := by decide, nanos_lt := by decide, leap_ends_minute := by decide }
  have hstep : ∀ minutes, 0 < minutes → minutes ≤ maxInt64 → minutes ∈ steps :=
    fun minutes hpos hfits => ⟨hfits,
      { start := midnight, stop := midnight, minutes, ordered := by decide, step_pos := hpos },
      rfl⟩
  have hhour : 60 ∈ steps := hstep 60 (by decide) (by decide)
  have hminute : 1 ∈ steps := hstep 1 (by decide) (by decide)
  have hread := read_published.1 9223372036854775807 (by decide) (by decide)
  have hrefused := read_published.2.1 (-9223372036854775808) (by decide)
  rw [hgreatest] at hread
  rw [hleast] at hrefused
  exact ⟨hread, hrefused, hhour, hminute, read_published.2.2.ne hhour hminute (by decide)⟩

end LayerAtlas.Duration
