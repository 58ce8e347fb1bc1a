import LayerAtlas.Text.Blank
import LayerAtlas.Text.Numeral
import Mathlib.Data.List.TakeWhile

namespace LayerAtlas.Text

variable {ds rest s : List Char} {least most width n : Nat} {c : Char}

theorem trimStart_of_head? (h : ∀ c, s.head? = some c → isBlank c = false) :
    trimStart s = s := by
  cases s with
  | nil => rfl
  | cons c s => rw [trimStart, List.dropWhile_cons_of_neg (by simp [h c rfl])]

theorem trimChars_between {before after : List Char} (hbefore : ∀ c ∈ before, isBlank c = true)
    (hafter : ∀ c ∈ after, isBlank c = true)
    (hfirst : ∀ c, s.head? = some c → isBlank c = false)
    (hlast : ∀ c, s.getLast? = some c → isBlank c = false) :
    trimChars (before ++ s ++ after) = s := by
  have hend : trimEnd (s ++ after) = s := by
    have hreverse : ∀ c ∈ after.reverse, isBlank c = true :=
      fun c hc => hafter c (List.mem_reverse.1 hc)
    have hstop : trimStart s.reverse = s.reverse :=
      trimStart_of_head? fun c hc => hlast c (by rwa [List.head?_reverse] at hc)
    rw [trimStart] at hstop
    rw [trimEnd, List.reverse_append, List.dropWhile_append_of_pos hreverse, hstop,
      List.reverse_reverse]
  have hstart : trimStart (before ++ s ++ after) = trimStart (s ++ after) := by
    rw [List.append_assoc, trimStart, List.dropWhile_append_of_pos hbefore, trimStart]
  rw [trimChars, hstart]
  cases s with
  | nil =>
    have hnone : trimStart after = [] := List.dropWhile_eq_nil_iff.2 hafter
    rw [List.nil_append, hnone]
    rfl
  | cons c s =>
    have hkept : trimStart (c :: s ++ after) = c :: s ++ after := trimStart_of_head? hfirst
    rw [hkept, hend]

theorem trimChars_eq_self (hfirst : ∀ c, s.head? = some c → isBlank c = false)
    (hlast : ∀ c, s.getLast? = some c → isBlank c = false) : trimChars s = s := by
  have hnone : ∀ c ∈ ([] : List Char), isBlank c = true :=
    fun c hc => absurd hc List.not_mem_nil
  have htrim := trimChars_between hnone hnone hfirst hlast
  rwa [List.nil_append, List.append_nil] at htrim

theorem trimChars_of_not_blank (h : ∀ c ∈ s, isBlank c = false) : trimChars s = s :=
  trimChars_eq_self (fun c hc => h c (List.mem_of_mem_head? hc)) fun c hc =>
    h c (List.mem_of_mem_getLast? hc)

theorem trim_of_not_blank {text : String} (h : ∀ c ∈ text.toList, isBlank c = false) :
    trim text = text := by
  rw [trim, trimChars_of_not_blank h, String.ofList_toList]

theorem mem_intercalate {x : Char} {parts : List (List Char)} (h : c ∈ [x].intercalate parts) :
    c = x ∨ ∃ p ∈ parts, c ∈ p := by
  induction parts with
  | nil => cases h
  | cons p parts ih =>
    cases parts with
    | nil =>
      rw [List.intercalate_singleton] at h
      exact .inr ⟨p, List.mem_cons_self, h⟩
    | cons q parts =>
      rw [List.intercalate_cons_cons, List.append_assoc, List.singleton_append] at h
      rcases List.mem_append.1 h with h | h
      · exact .inr ⟨p, List.mem_cons_self, h⟩
      rcases List.mem_cons.1 h with h | h
      · exact .inl h
      · obtain hx | ⟨r, hr, hmem⟩ := ih h
        · exact .inl hx
        · exact .inr ⟨r, List.mem_cons_of_mem p hr, hmem⟩

theorem mem_intercalate_of_mem {x : Char} {p : List Char} {parts : List (List Char)}
    (hp : p ∈ parts) (h : c ∈ p) :
    c ∈ [x].intercalate parts := by
  induction parts with
  | nil => cases hp
  | cons q parts ih =>
    cases parts with
    | nil =>
      rw [List.mem_singleton.1 hp] at h
      rw [List.intercalate_singleton]
      exact h
    | cons r parts =>
      rw [List.intercalate_cons_cons, List.append_assoc, List.mem_append]
      rcases List.mem_cons.1 hp with rfl | hp
      · exact .inl h
      · exact .inr (List.mem_append_right [x] (ih hp))

section Runs

variable {before : List Char}

theorem decide_ne_of_not_mem (h : c ∉ s) : ∀ d ∈ s, decide (d ≠ c) = true := by
  intro d hd
  rw [decide_eq_true_eq]
  rintro rfl
  exact h hd

theorem takeWhile_ne (h : c ∉ before) (rest : List Char) :
    (before ++ c :: rest).takeWhile (· ≠ c) = before := by
  rw [List.takeWhile_append_of_pos (decide_ne_of_not_mem h),
    List.takeWhile_cons_of_neg (by simp), List.append_nil]

theorem dropWhile_ne (h : c ∉ before) (rest : List Char) :
    (before ++ c :: rest).dropWhile (· ≠ c) = c :: rest := by
  rw [List.dropWhile_append_of_pos (decide_ne_of_not_mem h),
    List.dropWhile_cons_of_neg (by simp)]

end Runs

theorem toList_intercalate_comma (texts : List String) :
    (String.intercalate "," texts).toList = [','].intercalate (texts.map String.toList) := by
  rw [String.toList_intercalate]
  rfl

theorem mem_toList_intercalate {texts : List String}
    (h : c ∈ (String.intercalate "," texts).toList) :
    c = ',' ∨ ∃ text ∈ texts, c ∈ text.toList := by
  rw [toList_intercalate_comma] at h
  obtain hcomma | ⟨part, hpart, hmem⟩ := mem_intercalate h
  · exact .inl hcomma
  · obtain ⟨text, htext, rfl⟩ := List.mem_map.1 hpart
    exact .inr ⟨text, htext, hmem⟩

theorem mem_toList_intercalate_of_mem {texts : List String} {text : String}
    (htext : text ∈ texts) (h : c ∈ text.toList) :
    c ∈ (String.intercalate "," texts).toList := by
  rw [toList_intercalate_comma]
  exact mem_intercalate_of_mem (List.mem_map_of_mem htext) h

theorem isBlank_of_isDigit (h : c.isDigit = true) : isBlank c = false := by
  have hbounds : 48 ≤ c.toNat ∧ c.toNat ≤ 57 := by
    simp only [Char.isDigit, ge_iff_le, Bool.and_eq_true, decide_eq_true_eq,
      UInt32.le_iff_toNat_le] at h
    exact h
  simp only [isBlank, Bool.or_eq_false_iff, Bool.and_eq_false_iff, decide_eq_false_iff_not]
  omega

theorem isDigit_of_mem_digitsOf (h : c ∈ digitsOf n) : c.isDigit = true :=
  Nat.isDigit_of_mem_toDigits (by decide) (by decide) h

theorem isDigit_of_mem_padded (h : c ∈ padded width n) : c.isDigit = true := by
  rcases List.mem_append.1 h with h | h
  · rw [List.eq_of_mem_replicate h]
    rfl
  · exact isDigit_of_mem_digitsOf h

theorem natOfDigits_padded (width n : Nat) : natOfDigits (padded width n) = n := by
  rw [natOfDigits, padded, Nat.ofDigitChars_append,
    Nat.ofDigitChars_replicate_zero, Nat.mul_zero]
  exact natOfDigits_digitsOf n

theorem length_padded (width n : Nat) :
    (padded width n).length = max width (digitsOf n).length := by
  rw [padded, List.length_append, List.length_replicate]
  omega

theorem length_padded_of_lt (hwidth : 0 < width) (h : n < Nat.pow 10 width) :
    (padded width n).length = width := by
  rw [length_padded]
  exact Nat.max_eq_left ((Nat.length_toDigits_le_iff (by decide) hwidth).2 h)

theorem trimStart_padded (hwidth : 0 < width) (h : n < Nat.pow 10 width) :
    trimStart (padded width n ++ rest) = padded width n ++ rest := by
  have hlength := length_padded_of_lt hwidth h
  obtain ⟨d, ds, hpadded⟩ := List.exists_cons_of_length_pos (l := padded width n) (by omega)
  have hd : d.isDigit = true := isDigit_of_mem_padded (hpadded ▸ List.mem_cons_self)
  rw [hpadded]
  refine trimStart_of_head? ?_
  rintro _ ⟨⟩
  exact isBlank_of_isDigit hd

/-- A run of digits ends where no more may be taken, or before what is no digit. -/
theorem spanDigits_append (hds : ∀ c ∈ ds, c.isDigit = true) (hmost : ds.length ≤ most)
    (hend : ds.length = most ∨ ∀ c, rest.head? = some c → c.isDigit = false) :
    spanDigits most (ds ++ rest) = (ds, rest) := by
  induction ds generalizing most with
  | nil =>
    cases most with
    | zero => rfl
    | succ most =>
      have hrest := hend.resolve_left (Nat.succ_ne_zero most).symm
      cases rest with
      | nil => rfl
      | cons c rest =>
        rw [List.nil_append, spanDigits, hrest c rfl]
        rfl
  | cons c ds ih =>
    cases most with
    | zero => exact absurd hmost (Nat.not_succ_le_zero _)
    | succ most =>
      have ih' :=
        ih (fun d hd => hds d (List.mem_cons_of_mem c hd)) (Nat.le_of_succ_le_succ hmost)
        (hend.imp_left Nat.succ.inj)
      rw [List.cons_append, spanDigits, hds c List.mem_cons_self, if_pos rfl, ih']

theorem takeNat_append (hds : ∀ c ∈ ds, c.isDigit = true) (hleast : least ≤ ds.length)
    (hmost : ds.length ≤ most)
    (hend : ds.length = most ∨ ∀ c, rest.head? = some c → c.isDigit = false) :
    takeNat least most (ds ++ rest) = some (natOfDigits ds, rest) := by
  rw [takeNat, spanDigits_append hds hmost hend]
  exact if_pos hleast

theorem takeNat_padded (hwidth : 0 < width) (hleast : least ≤ width)
    (h : n < Nat.pow 10 width) :
    takeNat least width (padded width n ++ rest) = some (n, rest) := by
  have hlength := length_padded_of_lt hwidth h
  rw [takeNat_append (fun c => isDigit_of_mem_padded) (by omega) (by omega) (.inl hlength),
    natOfDigits_padded]

theorem natOfText_digitsOf (n : Nat) : natOfText (digitsOf n) = some n := by
  have hne : digitsOf n ≠ [] := List.ne_nil_of_length_pos Nat.length_toDigits_pos
  rw [natOfText, if_pos ⟨hne, List.all_eq_true.2 fun c => isDigit_of_mem_digitsOf⟩,
    natOfDigits_digitsOf]

end LayerAtlas.Text
