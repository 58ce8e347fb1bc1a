import LayerAtlas.Time.Calendar

namespace LayerAtlas.Date

variable {era century leapCycle yearOfCycle y n : Int} {d : Nat}

/-- The date a number of days after the first of March of a year. -/
def ofMarch (y : Int) (d : Nat) : Date :=
  let fifth := (5 * d + 2) / 153
  let month := if fifth < 10 then fifth + 3 else fifth - 9
  { year := if month ≤ 2 then y + 1 else y, month, day := d - (153 * fifth + 2) / 5 + 1 }

theorem daysToMarch_cycles (hcentury : 0 ≤ century ∧ century ≤ 3)
    (hleap : 0 ≤ leapCycle ∧ leapCycle ≤ 24) (hyear : 0 ≤ yearOfCycle ∧ yearOfCycle ≤ 3) :
    daysToMarch (400 * era + 100 * century + 4 * leapCycle + yearOfCycle) =
      146097 * era + 36524 * century + 1461 * leapCycle + 365 * yearOfCycle := by
  rw [daysToMarch]
  omega

theorem isLeapYear_iff : isLeapYear y = true ↔ y % 4 = 0 ∧ (y % 100 ≠ 0 ∨ y % 400 = 0) := by
  simp only [isLeapYear, Bool.and_eq_true, Bool.or_eq_true, decide_eq_true_eq]

/-- A day lies in a year that begins in March, on its day 365 only if the year ends with a leap
day. -/
theorem exists_ofMarch (n : Int) :
    ∃ y d, ofDayNumber n = ofMarch y d ∧ daysToMarch y + (d : Nat) = n + 719468 ∧
      (d < 365 ∨ d = 365 ∧ isLeapYear (y + 1) = true) := by
  have hera := Int.mul_ediv_add_emod (n + 719468) 146097
  generalize hfrom : (n + 719468) / 146097 = era at hera
  generalize hin : (n + 719468) % 146097 = inEra at hera
  have hinEra : 0 ≤ inEra ∧ inEra < 146097 := by omega
  generalize hc : min 3 (inEra / 36524) = century
  have hcentury : 0 ≤ century ∧ century ≤ 3 := by omega
  generalize hrest : inEra - 36524 * century = inCentury
  have hinCentury :
      0 ≤ inCentury ∧ inCentury ≤ 36524 ∧ (inCentury = 36524 → century = 3) := by omega
  have hcycle := Int.mul_ediv_add_emod inCentury 1461
  generalize hl : inCentury / 1461 = leapCycle at hcycle
  generalize hi : inCentury % 1461 = inCycle at hcycle
  have hleapCycle : 0 ≤ leapCycle ∧ leapCycle ≤ 24 := by omega
  have hinCycle : 0 ≤ inCycle ∧ inCycle < 1461 := by omega
  generalize hy : min 3 (inCycle / 365) = yearOfCycle
  have hyear : 0 ≤ yearOfCycle ∧ yearOfCycle ≤ 3 := by omega
  refine ⟨400 * era + 100 * century + 4 * leapCycle + yearOfCycle,
    (inCycle - 365 * yearOfCycle).toNat, ?_, ?_, ?_⟩
  · simp only [ofDayNumber, ofMarch, hfrom, hin, hc, hrest, hl, hi, hy]
  · rw [daysToMarch_cycles hcentury hleapCycle hyear]
    omega
  · rw [isLeapYear_iff]
    omega

theorem ofMarch_before_january (h : (5 * d + 2) / 153 < 10) :
    ofMarch y d =
      { year := y, month := (5 * d + 2) / 153 + 3,
        day := d - (153 * ((5 * d + 2) / 153) + 2) / 5 + 1 } := by
  have hmonth : ¬ (5 * d + 2) / 153 + 3 ≤ 2 := by omega
  simp only [ofMarch, if_pos h, if_neg hmonth]

theorem ofMarch_from_january (h : ¬ (5 * d + 2) / 153 < 10) (hd : d ≤ 365) :
    ofMarch y d =
      { year := y + 1, month := (5 * d + 2) / 153 - 9,
        day := d - (153 * ((5 * d + 2) / 153) + 2) / 5 + 1 } := by
  have hmonth : (5 * d + 2) / 153 - 9 ≤ 2 := by omega
  simp only [ofMarch, if_neg h, if_pos hmonth]

theorem dayNumber_ofMarch (hd : d ≤ 365) :
    (ofMarch y d).dayNumber = daysToMarch y + (d : Nat) - 719468 := by
  by_cases h : (5 * d + 2) / 153 < 10
  · have hmonth : ¬ (5 * d + 2) / 153 + 3 ≤ 2 := by omega
    have hback : ((5 * d + 2) / 153 + 3 + 9) % 12 = (5 * d + 2) / 153 := by omega
    rw [ofMarch_before_january h, dayNumber, daysToMonth]
    simp only [if_neg hmonth, hback]
    omega
  · have hmonth : (5 * d + 2) / 153 - 9 ≤ 2 := by omega
    have hback : ((5 * d + 2) / 153 - 9 + 9) % 12 = (5 * d + 2) / 153 := by omega
    rw [ofMarch_from_january h hd, dayNumber, daysToMonth]
    simp only [if_pos hmonth, hback, Int.add_sub_cancel]
    omega

theorem monthLength_le (y : Int) (m : Nat) : monthLength y m ≤ 31 := by
  rw [monthLength]
  split
  · split
    · decide
    · decide
  · split
    · decide
    · decide

theorem valid_iff {month day : Nat} :
    Valid { year := y, month, day } ↔
      1 ≤ month ∧ month ≤ 12 ∧ 1 ≤ day ∧ day ≤ monthLength y month := Iff.rfl

theorem valid_ofMarch (h : d < 365 ∨ d = 365 ∧ isLeapYear (y + 1) = true) :
    (ofMarch y d).Valid := by
  by_cases hfifth : (5 * d + 2) / 153 < 10
  · rw [ofMarch_before_january hfifth, valid_iff, monthLength, if_neg (by omega)]
    refine ⟨by omega, by omega, by omega, ?_⟩
    split
    · omega
    · omega
  · rw [ofMarch_from_january hfifth (by omega), valid_iff]
    refine ⟨by omega, by omega, by omega, ?_⟩
    by_cases hfebruary : (5 * d + 2) / 153 = 11
    · rw [monthLength, if_pos (by omega)]
      rcases h with hd | ⟨hd, hleap⟩
      · split
        · omega
        · omega
      · rw [if_pos hleap]
        omega
    · rw [monthLength, if_neg (by omega), if_neg (by omega)]
      omega

theorem dayNumber_ofDayNumber (n : Int) : (ofDayNumber n).dayNumber = n := by
  obtain ⟨y, d, hdate, hdays, hlength⟩ := exists_ofMarch n
  rw [hdate, dayNumber_ofMarch (by omega)]
  omega

theorem valid_ofDayNumber (n : Int) : (ofDayNumber n).Valid := by
  obtain ⟨y, d, hdate, _, hlength⟩ := exists_ofMarch n
  rw [hdate]
  exact valid_ofMarch hlength

end LayerAtlas.Date
