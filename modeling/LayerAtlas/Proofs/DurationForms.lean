import LayerAtlas.Proofs.Texts
import LayerAtlas.Time.Duration

namespace LayerAtlas.Duration

open Text

/-- One or more digits; leading zeros are allowed. -/
structure DigitRun where
  chars : List Char
  nonempty : chars ≠ []
  digits : ∀ c ∈ chars, c.isDigit = true

namespace DigitRun

def value (run : DigitRun) : Nat := natOfDigits run.chars

def ofNat (width n : Nat) : DigitRun where
  chars := padded width n
  nonempty :=
    List.append_ne_nil_of_right_ne_nil _ (List.ne_nil_of_length_pos Nat.length_toDigits_pos)
  digits _ := isDigit_of_mem_padded

theorem value_ofNat (width n : Nat) : (ofNat width n).value = n := natOfDigits_padded width n

end DigitRun

structure TimePart where
  hours : Option DigitRun
  minutes : Option DigitRun
  seconds : Option DigitRun

/-- A duration of the documented form. -/
structure Form where
  days : Option DigitRun
  time : Option TimePart

def field : Option DigitRun → Char → List Char
  | none, _ => []
  | some run, designator => run.chars ++ [designator]

@[simp] theorem field_none (designator : Char) : field none designator = [] := rfl

def amount : Option DigitRun → Nat
  | none => 0
  | some run => run.value

@[simp] theorem amount_none : amount none = 0 := rfl

namespace Form

variable (f : Form)

def hours : Option DigitRun := f.time.bind TimePart.hours

def minutes : Option DigitRun := f.time.bind TimePart.minutes

def seconds : Option DigitRun := f.time.bind TimePart.seconds

def timeText : List Char :=
  match f.time with
  | none => []
  | some t => 'T' :: (field t.hours 'H' ++ (field t.minutes 'M' ++ field t.seconds 'S'))

def text : List Char := 'P' :: (field f.days 'D' ++ f.timeText)

/-- The length in minutes, seconds short of a minute being dropped. -/
def total : Nat :=
  amount f.days * 1440 + amount f.hours * 60 + amount f.minutes + amount f.seconds / 60

structure InBounds : Prop where
  days : amount f.days ≤ maxMinutes
  hours : amount f.hours ≤ maxMinutes
  minutes : amount f.minutes ≤ maxMinutes
  seconds : amount f.seconds ≤ maxMinutes
  total : f.total ≤ maxMinutes

end Form

variable {before after rest s xs ds : List Char} {designator c : Char} {n : Nat}
  {number : Option DigitRun}
  {text : String}

theorem isBlank_of_isMark (h : isMark c = true) : isBlank c = false := by
  simp only [isMark, Bool.or_eq_true, decide_eq_true_eq, or_assoc] at h
  rcases h with h | rfl | rfl | rfl | rfl | rfl | rfl
  · exact isBlank_of_isDigit h
  all_goals decide

theorem isMark_of_isDigit (h : c.isDigit = true) : isMark c = true := by
  rw [isMark, h]
  rfl

theorem beforeFirst_append (hbefore : c ∉ before) :
    beforeFirst c (before ++ c :: after) = some before := by
  rw [beforeFirst, if_pos (List.mem_append_right before List.mem_cons_self),
    takeWhile_ne hbefore]

theorem beforeLast_append (hafter : c ∉ after) :
    beforeLast c (before ++ c :: after) = some before := by
  have hreverse :
      (before ++ c :: after).reverse = after.reverse ++ c :: before.reverse := by simp
  rw [beforeLast, if_pos (List.mem_append_right before List.mem_cons_self), hreverse,
    dropWhile_ne (mt List.mem_reverse.1 hafter), List.tail_cons, List.reverse_reverse]

theorem days_append (hbefore : 'D' ∉ before) :
    days (before ++ 'D' :: after) = if 'T' ∈ before then none else numberBefore before := by
  rw [days, beforeFirst_append hbefore]

theorem days_of_not_mem (h : 'D' ∉ s) : days s = some 0 := by
  rw [days, beforeFirst, if_neg h]

theorem timeField_append (hafter : designator ∉ after) :
    timeField designator (before ++ designator :: after) =
      if 'T' ∈ before then numberBefore before else none := by
  rw [timeField, beforeLast_append hafter]

theorem timeField_of_not_mem (h : designator ∉ s) : timeField designator s = some 0 := by
  rw [timeField, beforeLast, if_neg h]

theorem numberBefore_append (run : DigitRun)
    (hbefore : ∀ c, before.getLast? = some c → c.isDigit = false) :
    numberBefore (before ++ run.chars) = some n ↔ run.value = n ∧ n ≤ maxMinutes := by
  have hdigits : ∀ c ∈ run.chars.reverse, c.isDigit = true :=
    fun c hc => run.digits c (List.mem_reverse.1 hc)
  have hstop : before.reverse.takeWhile Char.isDigit = [] := by
    rw [List.getLast?_eq_head?_reverse] at hbefore
    cases hrev : before.reverse with
    | nil => rfl
    | cons c s => rw [List.takeWhile_cons_of_neg (by simp [hbefore c (by rw [hrev]; rfl)])]
  have hread : natOfText run.chars = some run.value :=
    if_pos ⟨run.nonempty, List.all_eq_true.2 run.digits⟩
  rw [numberBefore, List.reverse_append, List.takeWhile_append_of_pos hdigits, hstop,
    List.append_nil, List.reverse_reverse, hread, Option.filter_eq_some_iff, Option.some.injEq,
    decide_eq_true_eq]

theorem isDigit_of_numberBefore (h : numberBefore before = some n) :
    ∃ c, before.getLast? = some c ∧ c.isDigit = true := by
  rw [numberBefore, Option.filter_eq_some_iff, natOfText] at h
  rw [List.getLast?_eq_head?_reverse]
  cases hrev : before.reverse with
  | nil =>
    rw [hrev] at h
    exact absurd h.1 (by simp)
  | cons c s =>
    refine ⟨c, rfl, ?_⟩
    by_contra hc
    rw [hrev, List.takeWhile_cons_of_neg hc] at h
    exact absurd h.1 (by simp)

theorem DigitRun.not_mem (run : DigitRun) (hc : c.isDigit = false) : c ∉ run.chars := by
  intro hmem
  rw [run.digits c hmem] at hc
  cases hc

theorem mem_field (h : c ∈ field number designator) : c.isDigit = true ∨ c = designator := by
  cases number with
  | none => cases h
  | some run =>
    rcases List.mem_append.1 h with h | h
    · exact .inl (run.digits c h)
    · exact .inr (List.mem_singleton.1 h)

theorem not_mem_field (hc : c.isDigit = false) (hne : c ≠ designator) :
    c ∉ field number designator := by
  intro h
  rcases mem_field h with h | h
  · rw [hc] at h
    cases h
  · exact hne h

theorem getLast?_field (hdesignator : designator.isDigit = false)
    (hbefore : ∀ c, before.getLast? = some c → c.isDigit = false) :
    ∀ c, (before ++ field number designator).getLast? = some c → c.isDigit = false := by
  intro c hc
  cases number with
  | none =>
    rw [field, List.append_nil] at hc
    exact hbefore c hc
  | some run =>
    rw [field, ← List.append_assoc, List.getLast?_concat] at hc
    cases hc
    exact hdesignator

theorem zero_eq_iff : 0 = n ↔ amount none = n ∧ n ≤ maxMinutes := by
  apply Iff.intro
  · rintro rfl
    exact ⟨rfl, Nat.zero_le maxMinutes⟩
  · exact And.left

theorem days_field (hrest : 'D' ∉ rest) :
    days ('P' :: (field number 'D' ++ rest)) = some n ↔ amount number = n ∧ n ≤ maxMinutes := by
  cases number with
  | none =>
    have hnone : 'D' ∉ 'P' :: rest := by simp [hrest]
    rw [field, List.nil_append, days_of_not_mem hnone, Option.some.injEq]
    exact zero_eq_iff
  | some run =>
    have htext :
        'P' :: (field (some run) 'D' ++ rest) = ('P' :: run.chars) ++ 'D' :: rest := by
      simp [field]
    have hD : 'D' ∉ 'P' :: run.chars := by simp [run.not_mem]
    have hT : 'T' ∉ 'P' :: run.chars := by simp [run.not_mem]
    rw [htext, days_append hD, if_neg hT]
    change numberBefore (['P'] ++ run.chars) = some n ↔ _
    apply numberBefore_append run
    intro c hc
    cases hc
    rfl

theorem timeField_field (hT : 'T' ∈ before) (hbefore : designator ∉ before)
    (hafter : designator ∉ after) (hlast : ∀ c, before.getLast? = some c → c.isDigit = false) :
    timeField designator (before ++ (field number designator ++ after)) = some n ↔
      amount number = n ∧ n ≤ maxMinutes := by
  cases number with
  | none =>
    have hnone : designator ∉ before ++ after := by simp [hbefore, hafter]
    rw [field, List.nil_append, timeField_of_not_mem hnone, Option.some.injEq]
    exact zero_eq_iff
  | some run =>
    have htext : before ++ (field (some run) designator ++ after) =
        (before ++ run.chars) ++ designator :: after := by simp [field]
    rw [htext, timeField_append hafter, if_pos (List.mem_append_left _ hT)]
    exact numberBefore_append run hlast

/-- The shape that every text is asked for, and the number that is found for each designator. -/
structure Found (s : List Char) (days hours minutes seconds : Nat) : Prop where
  start : s.head? = some 'P'
  marks : s.all isMark = true
  noMonth : 'M' ∉ s.takeWhile (· ≠ 'T')
  days : Duration.days s = some days
  hours : timeField 'H' s = some hours
  minutes : timeField 'M' s = some minutes
  seconds : timeField 'S' s = some seconds

theorem minutesOf_eq_some_iff :
    minutesOf s = some n ↔ ∃ days hours minutes seconds, Found s days hours minutes seconds ∧
      days * 1440 + hours * 60 + minutes + seconds / 60 = n ∧ n ≤ maxMinutes := by
  rw [minutesOf]
  split
  · rename_i hshape
    apply iff_of_false
    · intro h
      cases h
    · rintro ⟨d, h, m, sec, hfound, _⟩
      rcases hshape with hstart | hmarks | hmonth
      · exact hstart hfound.start
      · exact hmarks hfound.marks
      · exact hfound.noMonth hmonth
  · rename_i hshape
    simp only [not_or, not_not] at hshape
    obtain ⟨hstart, hmarks, hmonth⟩ := hshape
    simp only [Option.bind_eq_bind, Option.bind_eq_some_iff, Option.ite_none_right_eq_some,
      Option.some.injEq]
    apply Iff.intro
    · rintro ⟨d, hd, h, hh, m, hm, sec, hsec, hfits, rfl⟩
      exact ⟨d, h, m, sec, ⟨hstart, hmarks, hmonth, hd, hh, hm, hsec⟩, rfl, hfits⟩
    · rintro ⟨d, h, m, sec, hfound, rfl, hfits⟩
      exact ⟨d, hfound.days, h, hfound.hours, m, hfound.minutes, sec,
        hfound.seconds, hfits, rfl⟩

namespace Form

variable {f : Form}

theorem mem_timeText (h : c ∈ f.timeText) :
    c.isDigit = true ∨ c = 'T' ∨ c = 'H' ∨ c = 'M' ∨ c = 'S' := by
  rw [timeText] at h
  split at h
  · cases h
  · simp only [List.mem_cons, List.mem_append] at h
    rcases h with rfl | h | h | h
    · exact .inr (.inl rfl)
    · exact (mem_field h).imp_right fun h => .inr (.inl h)
    · exact (mem_field h).imp_right fun h => .inr (.inr (.inl h))
    · exact (mem_field h).imp_right fun h => .inr (.inr (.inr h))

theorem isMark_of_mem_text (h : c ∈ f.text) : isMark c = true := by
  simp only [text, List.mem_cons, List.mem_append] at h
  rcases h with rfl | h | h
  · rfl
  · rcases mem_field h with h | rfl
    · exact isMark_of_isDigit h
    · rfl
  · rcases mem_timeText h with h | rfl | rfl | rfl | rfl
    · exact isMark_of_isDigit h
    all_goals rfl

theorem takeWhile_text (f : Form) : f.text.takeWhile (· ≠ 'T') = 'P' :: field f.days 'D' := by
  have hdate : 'T' ∉ 'P' :: field f.days 'D' := by simp [not_mem_field]
  rw [text, ← List.cons_append, List.takeWhile_append_of_pos (decide_ne_of_not_mem hdate),
    timeText]
  split
  · rw [List.takeWhile_nil, List.append_nil]
  · rw [List.takeWhile_cons_of_neg (by decide), List.append_nil]

theorem days_text : Duration.days f.text = some n ↔ amount f.days = n ∧ n ≤ maxMinutes := by
  apply days_field
  intro hD
  rcases mem_timeText hD with h | h | h | h | h
  all_goals cases h

def opening (f : Form) : List Char := 'P' :: (field f.days 'D' ++ ['T'])

theorem mem_opening (f : Form) : 'T' ∈ f.opening := by simp [opening]

theorem not_mem_opening (hdigit : designator.isDigit = false)
    (h : designator ∉ ['P', 'D', 'T']) :
    designator ∉ f.opening := by
  simp only [List.mem_cons, List.not_mem_nil, or_false, not_or] at h
  simp [opening, h, not_mem_field hdigit h.2.1]

theorem getLast?_opening (f : Form) : ∀ c, f.opening.getLast? = some c → c.isDigit = false := by
  intro c hc
  rw [opening, ← List.cons_append, List.getLast?_concat] at hc
  cases hc
  rfl

theorem text_of_time {t : TimePart} (h : f.time = some t) :
    f.text =
      f.opening ++ (field t.hours 'H' ++ (field t.minutes 'M' ++ field t.seconds 'S')) := by
  simp [text, timeText, opening, h]

theorem timeField_text_of_no_time (h : f.time = none) (hdigit : designator.isDigit = false)
    (hdate : designator ∉ ['P', 'D', 'T']) :
    timeField designator f.text = some n ↔ amount none = n ∧ n ≤ maxMinutes := by
  have hnone : designator ∉ f.text := by
    simp only [List.mem_cons, List.not_mem_nil, or_false, not_or] at hdate
    simp [text, timeText, h, hdate, not_mem_field hdigit]
  rw [timeField_of_not_mem hnone, Option.some.injEq]
  exact zero_eq_iff

theorem hours_text : timeField 'H' f.text = some n ↔ amount f.hours = n ∧ n ≤ maxMinutes := by
  rw [hours]
  cases h : f.time with
  | none => exact timeField_text_of_no_time h rfl (by decide)
  | some t =>
    rw [text_of_time h]
    apply timeField_field f.mem_opening (not_mem_opening rfl (by decide)) _ f.getLast?_opening
    simp [not_mem_field]

theorem minutes_text : timeField 'M' f.text = some n ↔
    amount f.minutes = n ∧ n ≤ maxMinutes := by
  rw [minutes]
  cases h : f.time with
  | none => exact timeField_text_of_no_time h rfl (by decide)
  | some t =>
    rw [text_of_time h, ← List.append_assoc]
    apply timeField_field (List.mem_append_left _ f.mem_opening) _
      (not_mem_field rfl (by decide))
    · exact getLast?_field rfl f.getLast?_opening
    · simp [not_mem_opening, not_mem_field]

theorem seconds_text : timeField 'S' f.text = some n ↔
    amount f.seconds = n ∧ n ≤ maxMinutes := by
  rw [seconds]
  cases h : f.time with
  | none => exact timeField_text_of_no_time h rfl (by decide)
  | some t =>
    rw [text_of_time h, ← List.append_assoc, ← List.append_assoc,
      ← List.append_nil (field t.seconds 'S')]
    apply timeField_field _ _ List.not_mem_nil
    · exact getLast?_field rfl (getLast?_field rfl f.getLast?_opening)
    · exact List.mem_append_left _ (List.mem_append_left _ f.mem_opening)
    · simp [not_mem_opening, not_mem_field]

theorem found_text_iff {days hours minutes seconds : Nat} :
    Found f.text days hours minutes seconds ↔
    (amount f.days = days ∧ days ≤ maxMinutes) ∧ (amount f.hours = hours ∧ hours ≤ maxMinutes) ∧
      (amount f.minutes = minutes ∧ minutes ≤ maxMinutes) ∧
      (amount f.seconds = seconds ∧ seconds ≤ maxMinutes) := by
  apply Iff.intro
  · intro h
    exact ⟨days_text.1 h.days, hours_text.1 h.hours, minutes_text.1 h.minutes,
      seconds_text.1 h.seconds⟩
  · rintro ⟨hdays, hhours, hminutes, hseconds⟩
    have hmonth : 'M' ∉ f.text.takeWhile (· ≠ 'T') := by
      rw [takeWhile_text]
      simp [not_mem_field]
    exact ⟨rfl, List.all_eq_true.2 fun c hc => isMark_of_mem_text hc, hmonth, days_text.2 hdays,
      hours_text.2 hhours, minutes_text.2 hminutes, seconds_text.2 hseconds⟩

theorem minutesOf_text_eq_some_iff : minutesOf f.text = some n ↔ f.InBounds ∧ f.total = n := by
  rw [minutesOf_eq_some_iff]
  simp only [found_text_iff]
  apply Iff.intro
  · rintro ⟨_, _, _, _, ⟨⟨rfl, hd⟩, ⟨rfl, hh⟩, ⟨rfl, hm⟩, ⟨rfl, hs⟩⟩, rfl, hfits⟩
    exact ⟨⟨hd, hh, hm, hs, hfits⟩, rfl⟩
  · rintro ⟨hbounds, rfl⟩
    exact ⟨_, _, _, _,
      ⟨⟨rfl, hbounds.days⟩, ⟨rfl, hbounds.hours⟩, ⟨rfl, hbounds.minutes⟩,
        ⟨rfl, hbounds.seconds⟩⟩, rfl, hbounds.total⟩

end Form

theorem read_eq_ok_iff : read text = .ok n ↔ minutesOf text.toList = some n := by
  rw [read]
  cases minutesOf text.toList with
  | none => simp
  | some m => simp

theorem read_eq_error (h : ∀ n, minutesOf text.toList ≠ some n) :
    read text = .error (.malformedDuration text) := by
  rw [read, Option.eq_none_iff_forall_not_mem.2 h]

/-- A text with another first letter, with other characters than durations have, or with months
before `T`. -/
inductive Malformed (s : List Char) : Prop
  | start (h : s.head? ≠ some 'P')
  | character (c : Char) (hmem : c ∈ s) (hdigit : c.isDigit = false)
      (h : c ∉ ['P', 'D', 'T', 'H', 'M', 'S'])
  | month (before after : List Char) (hs : s = before ++ 'M' :: after) (h : 'T' ∉ before)

theorem Malformed.not_found {days hours minutes seconds : Nat} (h : Malformed s) :
    ¬ Found s days hours minutes seconds := by
  intro hfound
  cases h with
  | start h => exact h hfound.start
  | character c hmem hdigit h =>
    have hmark := List.all_eq_true.1 hfound.marks c hmem
    simp only [List.mem_cons, List.not_mem_nil, or_false, not_or] at h
    simp [isMark, hdigit, h] at hmark
  | month before after hs h =>
    apply hfound.noMonth
    rw [hs, List.takeWhile_append_of_pos (decide_ne_of_not_mem h),
      List.takeWhile_cons_of_pos (by decide)]
    exact List.mem_append_right _ List.mem_cons_self

/-- Every duration of the documented form is read to its exact number of minutes, or refused
where a number or the length is out of bounds; malformed texts are refused. -/
theorem read_documented :
    (∀ f : Form, (f.InBounds → read (String.ofList f.text) = .ok f.total) ∧
      (¬ f.InBounds →
        read (String.ofList f.text) = .error (.malformedDuration (String.ofList f.text)))) ∧
      ∀ text : String, Malformed text.toList →
        read text = .error (.malformedDuration text) := by
  apply And.intro
  · intro f
    apply And.intro
    · intro hbounds
      rw [read_eq_ok_iff, String.toList_ofList, Form.minutesOf_text_eq_some_iff]
      exact ⟨hbounds, rfl⟩
    · intro hbounds
      apply read_eq_error
      intro n hn
      rw [String.toList_ofList, Form.minutesOf_text_eq_some_iff] at hn
      exact hbounds hn.1
  · intro text h
    apply read_eq_error
    intro n hn
    obtain ⟨_, _, _, _, hfound, _⟩ := minutesOf_eq_some_iff.1 hn
    exact h.not_found hfound

def longest : Form where
  days := some (.ofNat 18 6405119470038038)
  time := some {
    hours := some (.ofNat 2 18)
    minutes := some (.ofNat 2 7)
    seconds := some (.ofNat 2 59) }

def tooLong : Form where
  days := none
  time := some {
    hours := some (.ofNat 1 153722867280912930)
    minutes := some (.ofNat 1 7)
    seconds := some (.ofNat 1 60) }

theorem read_documented_longest :
    longest.InBounds ∧ ¬ tooLong.InBounds ∧ Malformed "P1MT30M".toList ∧
      read "P006405119470038038DT18H07M59S" = .ok 9223372036854775807 ∧
      read "PT153722867280912930H7M60S" =
        .error (.malformedDuration "PT153722867280912930H7M60S") ∧
      read "P1MT30M" = .error (.malformedDuration "P1MT30M") := by
  have hlongest : longest.InBounds := by
    constructor
    all_goals decide +kernel
  have htooLong : ¬ tooLong.InBounds := by
    intro h
    exact absurd h.total (by decide +kernel)
  have hmonth : Malformed "P1MT30M".toList := .month "P1".toList "T30M".toList rfl (by decide)
  have hread := (read_documented.1 longest).1 hlongest
  have hrefused := (read_documented.1 tooLong).2 htooLong
  have htext :
      String.ofList longest.text = "P006405119470038038DT18H07M59S" := by decide +kernel
  have htext' : String.ofList tooLong.text = "PT153722867280912930H7M60S" := by decide +kernel
  have htotal : longest.total = 9223372036854775807 := by decide +kernel
  rw [htext, htotal] at hread
  rw [htext'] at hrefused
  exact ⟨hlongest, htooLong, hmonth, hread, hrefused, read_documented.2 "P1MT30M" hmonth⟩

end LayerAtlas.Duration
