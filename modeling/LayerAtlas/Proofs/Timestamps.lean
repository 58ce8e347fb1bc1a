import LayerAtlas.Proofs.Calendar
import LayerAtlas.Proofs.Texts
import LayerAtlas.Proofs.Instants
import LayerAtlas.Time.Request

namespace LayerAtlas

open Text

namespace Timestamp

variable {t : Instant} {r : Reading} {n : Nat} {c : Char} {rest : List Char}

namespace Reading

def ofInstant (t : Instant) : Reading where
  year := (Date.ofDayNumber t.day).year
  month := (Date.ofDayNumber t.day).month
  day := (Date.ofDayNumber t.day).day
  hour := t.secondOfDay.toNat / 3600
  minute := t.secondOfDay.toNat / 60 % 60
  second := t.secondOfDay.toNat % 60 + if t.IsLeap then 1 else 0

structure Short (r : Reading) : Prop where
  month : r.month < 100
  day : r.day < 100
  hour : r.hour < 100
  minute : r.minute < 100
  second : r.second < 100
  nanos : r.nanos = 0

def text (r : Reading) : List Char :=
  writeYear r.year ++
    '-' :: (padded 2 r.month ++ '-' :: (padded 2 r.day ++ 'T' :: (padded 2 r.hour ++
    ':' :: (padded 2 r.minute ++ ':' :: padded 2 r.second))))

theorem second_ofInstant (t : Instant) :
    (t.IsLeap ∧ (ofInstant t).second = 60 ∧ t.secondOfDay.toNat % 60 = 59) ∨
      (¬ t.IsLeap ∧ (ofInstant t).second = t.secondOfDay.toNat % 60) := by
  by_cases hleap : t.IsLeap
  · have hends : t.secondOfDay.toNat % 60 = 59 := by
      have hends := t.leap_ends_minute hleap
      rw [Instant.secondOfDay]
      omega
    refine .inl ⟨hleap, ?_, hends⟩
    simp only [ofInstant, hends, if_pos hleap]
  · refine .inr ⟨hleap, ?_⟩
    simp only [ofInstant, if_neg hleap, Nat.add_zero]

theorem short_ofInstant (t : Instant) : (ofInstant t).Short := by
  have hsecond := Instant.secondOfDay_bounds t
  obtain ⟨_, hmonth, _, hday⟩ := Date.valid_ofDayNumber t.day
  have hlength :=
    Date.monthLength_le (Date.ofDayNumber t.day).year (Date.ofDayNumber t.day).month
  constructor
  · simp only [ofInstant]
    omega
  · simp only [ofInstant]
    omega
  · simp only [ofInstant]
    omega
  · simp only [ofInstant]
    omega
  · rcases second_ofInstant t with ⟨_, hshown, _⟩ | ⟨_, hshown⟩
    · omega
    · omega
  · rfl

theorem toInstant?_ofInstant (t : Instant) : (ofInstant t).toInstant? 0 = some t.truncate := by
  have hsecond := Instant.secondOfDay_bounds t
  have hshown := second_ofInstant t
  have hclock : (ofInstant t).OnClock := by
    refine ⟨?_, ?_, by omega⟩
    · simp only [ofInstant]
      omega
    · simp only [ofInstant]
      omega
  have hseconds : t.truncate.seconds = (ofInstant t).seconds := by
    have hday : (ofInstant t).date.dayNumber = t.day := Date.dayNumber_ofDayNumber t.day
    have hminute : min (ofInstant t).second 59 = t.secondOfDay.toNat % 60 := by omega
    rw [Instant.truncate_seconds, seconds, hday, hminute, Instant.day]
    simp only [ofInstant]
    rw [Instant.secondOfDay] at *
    omega
  have hnanos : t.truncate.nanos =
      (if (ofInstant t).second = 60 then 1000000000 else 0) + (ofInstant t).nanos := by
    rw [(short_ofInstant t).nanos]
    rcases hshown with ⟨hleap, hshown, _⟩ | ⟨hleap, hshown⟩
    · rw [Instant.truncate, dif_pos hleap, if_pos hshown]
    · rw [Instant.truncate, dif_neg hleap, if_neg (by omega)]
  have hinstant := Instant.of?_eq_some_iff.2 ⟨hseconds, hnanos⟩
  rw [toInstant?, if_pos ⟨Date.valid_ofDayNumber t.day, hclock⟩]
  change (Instant.of? (ofInstant t).seconds _).bind _ = _
  rw [hinstant, Option.bind_some, Int.sub_zero, hinstant]

end Reading

theorem writeSecond_eq (t : Instant) : writeSecond t = (Reading.ofInstant t).text := by
  simp only [writeSecond, Reading.text, Reading.ofInstant, List.append_assoc, List.cons_append]

theorem takeNat_two {least : Nat} (hleast : least ≤ 2) (h : n < 100) :
    takeNat least 2 (padded 2 n ++ rest) = some (n, rest) :=
  takeNat_padded (by decide) hleast h

theorem expect_self : expect c (c :: rest) = some rest := if_pos rfl

theorem ofRfc3339_text (hr : r.Short) (hyear : 0 ≤ r.year ∧ r.year ≤ 9999)
    (h : r.toInstant? 0 = some t) :
    ofRfc3339 (r.text ++ ['Z']) = some t := by
  have hshort : r.year.toNat < 10000 := by omega
  have hread :
      ∀ rest, takeNat 4 4 (padded 4 r.year.toNat ++ rest) = some (r.year.toNat, rest) :=
    fun _ => takeNat_padded (by decide) (by decide) hshort
  have hdivider : ∀ s, readDivider ('T' :: s) = some s := fun _ => rfl
  have hfraction : readFraction ['Z'] = some (0, ['Z']) := rfl
  have hzone : readZone (expect ':') ['Z'] = some (0, []) := rfl
  have hback : ((r.year.toNat : Nat) : Int) = r.year := Int.toNat_of_nonneg hyear.1
  rw [Reading.text, writeYear, if_pos hyear, ofRfc3339]
  simp only [List.append_assoc, List.cons_append, bind, Option.bind_eq_some_iff]
  refine ⟨_, hread _, _, expect_self, _, takeNat_two (Nat.le_refl 2) hr.month, _, expect_self,
    _, takeNat_two (Nat.le_refl 2) hr.day, _, hdivider _, _,
    takeNat_two (Nat.le_refl 2) hr.hour, _, expect_self, _,
    takeNat_two (Nat.le_refl 2) hr.minute, _, expect_self, _,
    takeNat_two (Nat.le_refl 2) hr.second, _, hfraction, _, hzone, ?_⟩
  rw [if_pos ⟨rfl, by decide, by decide⟩, hback, ← hr.nanos]
  exact h

theorem ofRfc3339_of_sign (hc : c.isDigit = false) (s : List Char) :
    ofRfc3339 (c :: s) = none := by
  have hyear : takeNat 4 4 (c :: s) = none := by
    rw [takeNat, spanDigits, hc]
    rfl
  rw [ofRfc3339, hyear]
  rfl

/-- Blanks may stand before a number of a form, but none do. -/
theorem takeNat_trimStart (h : n < 100) (rest : List Char) :
    takeNat 1 2 (trimStart (padded 2 n ++ rest)) = some (n, rest) := by
  rw [trimStart_padded (by decide) h, takeNat_two (by decide) h]

theorem readYear_writeYear {y : Int} (hy : ¬ (0 ≤ y ∧ y ≤ 9999)) :
    readYear (trimStart (writeYear y ++ '-' :: rest)) = some (y, '-' :: rest) := by
  have hdigits : ∀ most, (padded 4 y.natAbs).length ≤ most →
      takeNat 1 most (padded 4 y.natAbs ++ '-' :: rest) = some (y.natAbs, '-' :: rest) := by
    intro most hmost
    have hlength := length_padded 4 y.natAbs
    rw [takeNat_append (fun c => isDigit_of_mem_padded) (by omega) hmost
      (.inr (by rintro _ ⟨⟩; rfl)), natOfDigits_padded]
  have hmost : (padded 4 y.natAbs).length ≤ (padded 4 y.natAbs ++ '-' :: rest).length := by
    rw [List.length_append]
    omega
  rw [writeYear, if_neg hy]
  split
  · rw [List.cons_append, trimStart_of_head? (by rintro _ ⟨⟩; rfl), readYear, hdigits _ hmost,
      Option.map_some]
    have habs : -(y.natAbs : Int) = y := by omega
    simp only [habs]
  · rw [List.cons_append, trimStart_of_head? (by rintro _ ⟨⟩; rfl), readYear, hdigits _ hmost,
      Option.map_some]
    have habs : (y.natAbs : Int) = y := by omega
    simp only [habs]

def fullForm : List Item :=
  [.year, .mark '-', .month, .mark '-', .day, .mark 'T', .hour, .mark ':', .minute,
    .mark ':', .second]

theorem readForm_text (hr : r.Short) (hyear : ¬ (0 ≤ r.year ∧ r.year ≤ 9999)) :
    readForm fullForm r.text = r.toInstant? 0 := by
  have hsecond : takeNat 1 2 (trimStart (padded 2 r.second)) = some (r.second, []) := by
    have hread := takeNat_trimStart hr.second []
    rw [List.append_nil] at hread
    exact hread
  have htext : readItems fullForm {} r.text = some ({ r with nanos := 0 }, []) := by
    rw [Reading.text, fullForm]
    simp only [readItems, Item.read, readYear_writeYear hyear, Option.map_some,
      Option.bind_some, expect_self, takeNat_trimStart, hsecond, hr.month, hr.day,
      hr.hour, hr.minute]
  rw [readForm, htext, ← hr.nanos]

def isMark (c : Char) : Bool := c.isDigit || c = '-' || c = '+' || c = ':' || c = 'T' || c = 'Z'

theorem isMark_iff : isMark c = true ↔
    c.isDigit = true ∨ c = '-' ∨ c = '+' ∨ c = ':' ∨ c = 'T' ∨ c = 'Z' := by
  simp only [isMark, Bool.or_eq_true, decide_eq_true_eq, or_assoc]

theorem isBlank_of_isMark (h : isMark c = true) : isBlank c = false := by
  rcases isMark_iff.1 h with h | rfl | rfl | rfl | rfl | rfl
  · exact isBlank_of_isDigit h
  all_goals decide

theorem isMark_of_mem_padded {width : Nat} (h : c ∈ padded width n) : isMark c = true :=
  isMark_iff.2 (.inl (isDigit_of_mem_padded h))

theorem isMark_of_mem_writeYear {y : Int} (h : c ∈ writeYear y) : isMark c = true := by
  rw [writeYear] at h
  split at h
  · exact isMark_of_mem_padded h
  · rcases List.mem_cons.1 h with rfl | h
    · split
      · rfl
      · rfl
    · exact isMark_of_mem_padded h

theorem isMark_of_mem_text (h : c ∈ r.text) : isMark c = true := by
  simp only [Reading.text, List.mem_append, List.mem_cons] at h
  rcases h with h | rfl | h | rfl | h | rfl | h | rfl | h | rfl | h
  · exact isMark_of_mem_writeYear h
  · rfl
  · exact isMark_of_mem_padded h
  · rfl
  · exact isMark_of_mem_padded h
  · rfl
  · exact isMark_of_mem_padded h
  · rfl
  · exact isMark_of_mem_padded h
  · rfl
  · exact isMark_of_mem_padded h

theorem toList_write (t : Instant) :
    (write t).toList = (Reading.ofInstant t).text ++ ['Z'] := by
  rw [write, String.toList_ofList, writeSecond_eq]

theorem isMark_of_mem_write (h : c ∈ (write t).toList) : isMark c = true := by
  rw [toList_write] at h
  rcases List.mem_append.1 h with h | h
  · exact isMark_of_mem_text h
  · rw [List.mem_singleton.1 h]
    rfl

theorem write_ne_empty (t : Instant) : write t ≠ "" := by
  intro hempty
  have hmem : 'Z' ∈ (write t).toList := by
    rw [toList_write]
    exact List.mem_append_right _ List.mem_cons_self
  rw [hempty] at hmem
  cases hmem

theorem dropFraction_of_not_mem {s : List Char} (h : '.' ∉ s) : dropFraction s = s := by
  have hpoint : s.dropWhile (· ≠ '.') = [] :=
    List.dropWhile_eq_nil_iff.2 (decide_ne_of_not_mem h)
  simp only [dropFraction, hpoint, List.not_mem_nil, if_false]

theorem ofChars_text (hr : r.Short) (h : r.toInstant? 0 = some t) :
    ofChars (r.text ++ ['Z']) = some t := by
  by_cases hyear : 0 ≤ r.year ∧ r.year ≤ 9999
  · rw [ofChars, ofRfc3339_text hr hyear h]
    rfl
  · have hsign : ofRfc3339 (r.text ++ ['Z']) = none := by
      rw [Reading.text, writeYear, if_neg hyear, List.cons_append, List.cons_append]
      refine ofRfc3339_of_sign ?_ _
      split
      · rfl
      · rfl
    have hzulu : dropZulu (r.text ++ ['Z']) = r.text := by
      rw [dropZulu, List.getLast?_concat, if_pos rfl, List.dropLast_concat]
    have hfirst : plainForms = fullForm :: plainForms.tail := rfl
    rw [ofChars, hsign, hzulu, hfirst, List.findSome?_cons, readForm_text hr hyear, h]
    rfl

theorem point_not_mem_write (t : Instant) : '.' ∉ (write t).toList := by
  intro hmem
  cases isMark_of_mem_write hmem

theorem read_eq_ok_iff {text : String} :
    read text = .ok t ↔ ofChars (dropFraction (trimChars text.toList)) = some t := by
  rw [read]
  split
  · rename_i hchars
    rw [hchars, Except.ok.injEq, Option.some.injEq]
  · rename_i hchars
    rw [hchars]
    exact iff_of_false (by rintro ⟨⟩) (by rintro ⟨⟩)

theorem read_of_dropFraction {text : String}
    (h : dropFraction (trimChars text.toList) = (write t).toList) :
    read text = .ok t.truncate := by
  rw [read_eq_ok_iff, h, toList_write]
  exact ofChars_text (Reading.short_ofInstant t) (Reading.toInstant?_ofInstant t)

theorem read_write (t : Instant) : read (write t) = .ok t.truncate := by
  have hmarks : ∀ c ∈ (write t).toList, isBlank c = false :=
    fun c hc => isBlank_of_isMark (isMark_of_mem_write hc)
  apply read_of_dropFraction
  rw [trimChars_of_not_blank hmarks, dropFraction_of_not_mem (point_not_mem_write t)]

theorem dropFraction_between {before after : List Char} (hpoint : '.' ∉ before)
    (hzulu : 'Z' ∉ after) (dropped : List Char) :
    dropFraction (before ++ '.' :: (dropped ++ 'Z' :: after)) = before ++ 'Z' :: after := by
  have hmem : 'Z' ∈ '.' :: (dropped ++ 'Z' :: after) :=
    List.mem_cons_of_mem _ (List.mem_append_right dropped List.mem_cons_self)
  have hreverse :
      ('.' :: (dropped ++ 'Z' :: after)).reverse =
        after.reverse ++ 'Z' :: (dropped.reverse ++ ['.']) := by
    simp
  simp only [dropFraction, dropWhile_ne hpoint, takeWhile_ne hpoint, if_pos hmem, hreverse]
  rw [takeWhile_ne (mt List.mem_reverse.1 hzulu), List.reverse_reverse]

/-- Nothing, or a point and digits; what the digits are does not matter, as they are dropped
unread. -/
def IsFraction (s : List Char) : Prop := s = [] ∨ ∃ digits, s = '.' :: digits

theorem dropFraction_second {fraction : List Char} (h : IsFraction fraction) (t : Instant) :
    dropFraction (writeSecond t ++ fraction ++ ['Z']) = (write t).toList := by
  have hwrite : (write t).toList = writeSecond t ++ ['Z'] := String.toList_ofList
  rcases h with rfl | ⟨digits, rfl⟩
  · rw [List.append_nil, ← hwrite, dropFraction_of_not_mem (point_not_mem_write t)]
  · have hpoint : '.' ∉ writeSecond t := by
      intro hmem
      refine point_not_mem_write t ?_
      rw [hwrite]
      exact List.mem_append_left _ hmem
    rw [List.append_assoc, List.cons_append,
      dropFraction_between hpoint List.not_mem_nil, hwrite]

theorem isBlank_head_second (t : Instant) (rest : List Char)
    (hc : (writeSecond t ++ rest).head? = some c) :
    isBlank c = false := by
  have hne : writeSecond t ≠ [] := List.append_ne_nil_of_right_ne_nil _ (List.cons_ne_nil _ _)
  obtain ⟨first, others, hsecond⟩ := List.exists_cons_of_ne_nil hne
  have hmem : c ∈ writeSecond t := by
    rw [hsecond] at hc ⊢
    cases hc
    exact List.mem_cons_self
  rw [writeSecond_eq] at hmem
  exact isBlank_of_isMark (isMark_of_mem_text hmem)

/-- A timestamp survives its publication up to the fraction of its second, which is dropped; a
fraction that is written before the `Z`, and blanks around the text, make no difference. -/
theorem read_write_around (t : Instant) :
    (write t).toList = writeSecond t ++ ['Z'] ∧ read (write t) = .ok t.truncate ∧
      ∀ before fraction after : List Char, (∀ c ∈ before, isBlank c = true) →
        IsFraction fraction →
        (∀ c ∈ after, isBlank c = true) →
        read (String.ofList (before ++ (writeSecond t ++ fraction ++ ['Z']) ++ after)) =
          .ok t.truncate := by
  refine ⟨String.toList_ofList, read_write t, ?_⟩
  intro before fraction after hbefore hfraction hafter
  have hfirst : ∀ c, (writeSecond t ++ fraction ++ ['Z']).head? = some c →
      isBlank c = false := by
    intro c hc
    rw [List.append_assoc] at hc
    exact isBlank_head_second t _ hc
  have hlast : ∀ c, (writeSecond t ++ fraction ++ ['Z']).getLast? = some c →
      isBlank c = false := by
    intro c hc
    rw [List.getLast?_concat] at hc
    cases hc
    rfl
  apply read_of_dropFraction
  rw [String.toList_ofList, trimChars_between hbefore hafter hfirst hlast,
    dropFraction_second hfraction]

/-- A quarter into a leap second at the end of the last year before year zero. -/
def leapSecondBeforeYearZero : Instant where
  seconds := -62167219201
  nanos := 1250000000
  inRange := by decide
  nanos_lt := by decide
  leap_ends_minute _ := by decide

theorem read_write_around_leapSecond :
    (∀ c ∈ ['\t', ' '], isBlank c = true) ∧ IsFraction ".25".toList ∧
    (∀ c ∈ ['\n'], isBlank c = true) ∧
      write leapSecondBeforeYearZero = "-0001-12-31T23:59:60Z" ∧
      (read "\t -0001-12-31T23:59:60.25Z\n").map (fun t => (t.seconds, t.nanos)) =
        .ok (-62167219201, 1000000000) := by
  have hbefore : ∀ c ∈ ['\t', ' '], isBlank c = true := List.all_eq_true.1 rfl
  have hfraction : IsFraction ".25".toList := .inr ⟨"25".toList, rfl⟩
  have hafter : ∀ c ∈ ['\n'], isBlank c = true := List.all_eq_true.1 rfl
  have hread := (read_write_around leapSecondBeforeYearZero).2.2 _ _ _ hbefore hfraction hafter
  have htext :
      String.ofList
        (['\t', ' '] ++ (writeSecond leapSecondBeforeYearZero ++ ".25".toList ++ ['Z']) ++
          ['\n']) =
        "\t -0001-12-31T23:59:60.25Z\n" := by decide +kernel
  rw [htext] at hread
  refine ⟨hbefore, hfraction, hafter, by decide +kernel, ?_⟩
  rw [hread]
  rfl

end Timestamp

theorem TimePoint.read_write (t : Instant) :
    read (Timestamp.write t) = .ok (.at t.truncate) := by
  have htrim : trim (Timestamp.write t) = Timestamp.write t :=
    trim_of_not_blank fun c hc => Timestamp.isBlank_of_isMark (Timestamp.isMark_of_mem_write hc)
  have hcolon : ':' ∈ (Timestamp.write t).toList := by
    simp [Timestamp.toList_write, Timestamp.Reading.text]
  have hword : sameLetters (Timestamp.write t) "current" = false := by
    rw [sameLetters, decide_eq_false_iff_not]
    intro heq
    have hmem : ':' ∈ (lower (Timestamp.write t)).toList := by
      rw [lower, String.toList_map]
      exact List.mem_map.2 ⟨':', hcolon, rfl⟩
    rw [heq, lower, String.toList_map] at hmem
    revert hmem
    decide
  rw [read, htrim, hword, Timestamp.read_write]
  rfl

end LayerAtlas
