import LayerAtlas.Proofs.MapReading
import LayerAtlas.Proofs.NormalForm
import LayerAtlas.Proofs.Texts

namespace LayerAtlas

namespace Text

variable {c : Char} {s p : List Char} {least most n : Int}

theorem not_mem_of_mem_splitOn (h : p ∈ s.splitOn c) : c ∉ p := by
  induction s generalizing p with
  | nil =>
    rw [List.splitOn_nil, List.mem_singleton] at h
    rw [h]
    exact List.not_mem_nil
  | cons x s ih =>
    rw [List.splitOn_cons_eq_if_modifyHead] at h
    split at h
    · rcases List.mem_cons.1 h with rfl | h
      · exact List.not_mem_nil
      · exact ih h
    · rename_i hx
      obtain ⟨q, qs, hsplit⟩ := List.exists_cons_of_ne_nil (List.splitOn_ne_nil c s)
      rw [hsplit, List.modifyHead_cons] at h
      rcases List.mem_cons.1 h with rfl | h
      · have hq : c ∉ q := ih (hsplit ▸ List.mem_cons_self)
        intro hmem
        rcases List.mem_cons.1 hmem with rfl | hmem
        · exact hx (beq_self_eq_true c)
        · exact hq hmem
      · exact ih (hsplit ▸ List.mem_cons_of_mem q h)

theorem splitOn_toList_intercalate {separator : String} (hseparator : separator.toList = [c])
    {texts : List String} (hne : texts ≠ []) (h : ∀ t ∈ texts, c ∉ t.toList) :
    (String.intercalate separator texts).toList.splitOn c = texts.map String.toList := by
  rw [String.toList_intercalate, hseparator]
  refine List.splitOn_intercalate c ?_ (List.map_eq_nil_iff.not.2 hne)
  intro part hpart
  obtain ⟨t, ht, rfl⟩ := List.mem_map.1 hpart
  exact h t ht

theorem intercalate_inj {separator : String} (hseparator : separator.toList = [c])
    {texts texts' : List String} (hne : texts ≠ []) (hne' : texts' ≠ [])
    (h : ∀ t ∈ texts, c ∉ t.toList) (h' : ∀ t ∈ texts', c ∉ t.toList) :
    String.intercalate separator texts = String.intercalate separator texts' ↔
    texts = texts' := by
  apply Iff.intro
  · intro heq
    apply List.map_injective_iff.2 (fun _ _ => String.toList_injective)
    rw [← splitOn_toList_intercalate hseparator hne h,
      ← splitOn_toList_intercalate hseparator hne' h', heq]
  · intro heq
    rw [heq]

def commaParts (text : String) : List String := (text.toList.splitOn ',').map String.ofList

theorem commaParts_intercalate {texts : List String} (hne : texts ≠ [])
    (h : ∀ t ∈ texts, ',' ∉ t.toList) :
    commaParts (String.intercalate "," texts) = texts := by
  rw [commaParts, splitOn_toList_intercalate rfl hne h, List.map_map]
  simp [Function.comp_def]

theorem commaParts_of_not_mem {text : String} (h : ',' ∉ text.toList) :
    commaParts text = [text] := by
  have hsingle : String.intercalate "," [text] = text := by simp
  conv_lhs => rw [← hsingle]
  apply commaParts_intercalate (List.cons_ne_nil _ _)
  intro t ht
  rw [List.mem_singleton.1 ht]
  exact h

theorem eq_of_commaParts_eq {text part : String} (h : commaParts text = [part]) :
    text = part := by
  apply String.toList_injective
  have hparts : text.toList.splitOn ',' = [part.toList] := by
    rw [commaParts] at h
    have hlists := congrArg (List.map String.toList) h
    simpa [Function.comp_def] using hlists
  have hjoined : [','].intercalate (text.toList.splitOn ',') = text.toList :=
    List.intercalate_splitOn ','
  rw [hparts, List.intercalate_singleton] at hjoined
  exact hjoined.symm

theorem mem_of_mem_trimChars (h : c ∈ trimChars s) : c ∈ s := by
  have hpart : trimEnd (trimStart s) <+: trimStart s := trimEnd_prefix (trimStart s)
  have hstart : c ∈ trimStart s := hpart.subset h
  exact (List.dropWhile_suffix isBlank).subset hstart

theorem trim_trim (text : String) : trim (trim text) = trim text := by
  rw [trim, trim, String.toList_ofList, trimChars_trimChars]

section TrimmedParts

variable {x : Char}

theorem map_trimStart_splitOn (hc : isBlank c = false) (s : List Char) :
    ((trimStart s).splitOn c).map trimStart = (s.splitOn c).map trimStart := by
  induction s with
  | nil => rfl
  | cons x s ih =>
    by_cases hx : isBlank x = true
    · have hne : ¬ (x == c) = true := by
        rw [beq_iff_eq]
        rintro rfl
        rw [hc] at hx
        cases hx
      obtain ⟨q, qs, hsplit⟩ := List.exists_cons_of_ne_nil (List.splitOn_ne_nil c s)
      rw [trimStart_cons_of_isBlank hx, ih, List.splitOn_cons_eq_if_modifyHead,
        if_neg hne, hsplit, List.modifyHead_cons, List.map_cons, List.map_cons,
        trimStart_cons_of_isBlank hx]
    · rw [trimStart_cons_of_not_isBlank hx]

theorem trimEnd_cons_trimEnd (x : Char) (s : List Char) :
    trimEnd (x :: trimEnd s) = trimEnd (x :: s) := by
  rw [trimEnd_cons, trimEnd_cons, trimEnd_trimEnd]

theorem map_trimEnd_splitOn_cons_of_ne (hx : x ≠ c) (s : List Char) :
    ((x :: s).splitOn c).map trimEnd =
      ((s.splitOn c).map trimEnd).modifyHead fun part => trimEnd (x :: part) := by
  obtain ⟨q, qs, hsplit⟩ := List.exists_cons_of_ne_nil (List.splitOn_ne_nil c s)
  rw [List.splitOn_cons_eq_if_modifyHead, if_neg (beq_iff_eq.not.2 hx), hsplit,
    List.modifyHead_cons, List.map_cons, List.map_cons, List.modifyHead_cons,
    trimEnd_cons_trimEnd]

theorem map_trimEnd_splitOn (hc : isBlank c = false) (s : List Char) :
    ((trimEnd s).splitOn c).map trimEnd = (s.splitOn c).map trimEnd := by
  induction s with
  | nil => rfl
  | cons x s ih =>
    rw [trimEnd_cons]
    split
    · -- nothing but blanks is left, which is one part
      rename_i hblank
      have hx : x ≠ c := by
        rintro rfl
        rw [hc] at hblank
        cases hblank.1
      rw [map_trimEnd_splitOn_cons_of_ne hx, ← ih, hblank.2, List.splitOn_nil]
      change [trimEnd []] = [trimEnd [x]]
      rw [trimEnd_cons, if_pos ⟨hblank.1, rfl⟩]
      rfl
    · by_cases hx : x = c
      · rw [hx, List.splitOn_cons_eq_if_modifyHead, List.splitOn_cons_eq_if_modifyHead,
          if_pos (beq_self_eq_true c), if_pos (beq_self_eq_true c), List.map_cons,
          List.map_cons, ih]
      · rw [map_trimEnd_splitOn_cons_of_ne hx, map_trimEnd_splitOn_cons_of_ne hx, ih]

theorem map_trimChars (parts : List (List Char)) :
    parts.map trimChars = (parts.map trimEnd).map trimStart := by
  rw [List.map_map]
  apply List.map_congr_left
  intro part _
  exact (trimStart_trimEnd part).symm

theorem map_trimChars_splitOn (hc : isBlank c = false) (s : List Char) :
    ((trimChars s).splitOn c).map trimChars = (s.splitOn c).map trimChars := by
  rw [map_trimChars, trimChars, map_trimEnd_splitOn hc, ← map_trimChars]
  change _ = (s.splitOn c).map (trimEnd ∘ trimStart)
  rw [← List.map_map, ← map_trimStart_splitOn hc, List.map_map]
  rfl

theorem map_trim_splitOn_trim (hc : isBlank c = false) (text : String) :
    (((trim text).toList.splitOn c).map String.ofList).map trim =
      ((text.toList.splitOn c).map String.ofList).map trim := by
  have htrim : trim ∘ String.ofList = String.ofList ∘ trimChars := by
    funext s
    rw [Function.comp_apply, trim, String.toList_ofList]
    rfl
  rw [List.map_map, List.map_map, htrim, ← List.map_map, ← List.map_map, trim,
    String.toList_ofList, map_trimChars_splitOn hc]

theorem mem_trimStart (hc : isBlank c = false) (h : c ∈ s) : c ∈ trimStart s := by
  have hsplit : c ∈ s.takeWhile isBlank ++ trimStart s := by
    rw [trimStart, List.takeWhile_append_dropWhile]
    exact h
  rcases List.mem_append.1 hsplit with hblank | hrest
  · have hblank := List.mem_takeWhile_imp hblank
    rw [hc] at hblank
    cases hblank
  · exact hrest

theorem mem_trimChars_iff (hc : isBlank c = false) : c ∈ trimChars s ↔ c ∈ s := by
  apply Iff.intro mem_of_mem_trimChars
  intro h
  apply List.mem_reverse.2
  apply mem_trimStart hc
  exact List.mem_reverse.2 (mem_trimStart hc h)

end TrimmedParts

theorem exists_digitsOf (n : Nat) : ∃ d ds, digitsOf n = d :: ds ∧ d.isDigit = true := by
  obtain ⟨d, ds, h⟩ := List.exists_cons_of_length_pos (l := digitsOf n) Nat.length_toDigits_pos
  exact ⟨d, ds, h, isDigit_of_mem_digitsOf (h ▸ List.mem_cons_self)⟩

theorem boundedInt_showInt (least most n : Int) :
    boundedInt least most (showInt n) = if least ≤ n ∧ n ≤ most then some n else none := by
  have hfilter : ∀ m : Int, (some m).filter (fun k => decide (least ≤ k ∧ k ≤ most)) =
      if least ≤ m ∧ m ≤ most then some m else none := by
    intro m
    rw [Option.filter_some]
    simp only [decide_eq_true_eq]
  cases n with
  | ofNat n =>
    obtain ⟨d, ds, hdigits, hd⟩ := exists_digitsOf n
    have hread : natOfText (d :: ds) = some n := hdigits ▸ natOfText_digitsOf n
    have hplus : d ≠ '+' := by
      rintro rfl
      cases hd
    have hminus : d ≠ '-' := by
      rintro rfl
      cases hd
    rw [boundedInt, showInt, String.toList_ofList, hdigits]
    split
    · rename_i heq
      exact absurd (List.cons.inj heq).1 hplus
    · rename_i heq
      exact absurd (List.cons.inj heq).1 hminus
    · rw [hread]
      exact hfilter n
  | negSucc n =>
    have hread : natOfText (digitsOf (n + 1)) = some (n + 1) := natOfText_digitsOf (n + 1)
    rw [boundedInt, showInt, String.toList_ofList]
    simp only [hread]
    exact hfilter (Int.negSucc n)

theorem mem_showInt (h : c ∈ (showInt n).toList) : c = '-' ∨ c.isDigit = true := by
  cases n with
  | ofNat n =>
    rw [showInt, String.toList_ofList] at h
    exact .inr (isDigit_of_mem_digitsOf h)
  | negSucc n =>
    rw [showInt, String.toList_ofList] at h
    rcases List.mem_cons.1 h with h | h
    · exact .inl h
    · exact .inr (isDigit_of_mem_digitsOf h)

theorem trim_showInt (n : Int) : trim (showInt n) = showInt n := by
  apply trim_of_not_blank
  intro c hc
  rcases mem_showInt hc with rfl | hdigit
  · decide
  · exact isBlank_of_isDigit hdigit

end Text

namespace Request

open Text

/-- A text that can be an element of a list: without a comma, and without blanks around it. -/
def IsElement (text : String) : Prop := ',' ∉ text.toList ∧ trim text = text

instance (text : String) : Decidable (IsElement text) := inferInstanceAs (Decidable (_ ∧ _))

variable {text list : String} {texts : List String} {n m : Int}

theorem isElement_of_mem_splitList (h : text ∈ splitList list) : IsElement text := by
  rw [splitList] at h
  split at h
  · cases h
  · obtain ⟨part, hpart, rfl⟩ := List.mem_map.1 h
    constructor
    · intro hcomma
      rw [String.toList_ofList] at hcomma
      exact not_mem_of_mem_splitOn hpart (mem_of_mem_trimChars hcomma)
    · rw [trim, String.toList_ofList, trimChars_trimChars]

/-- A list is read back, but for that of a single empty text, which is printed as no list is. -/
theorem splitList_intercalate (hne : texts ≠ []) (hblank : texts ≠ [""])
    (h : ∀ t ∈ texts, IsElement t) :
    splitList (String.intercalate "," texts) = texts := by
  have hparts : commaParts (String.intercalate "," texts) = texts :=
    commaParts_intercalate hne fun t ht => (h t ht).1
  have hjoined : String.intercalate "," texts ≠ "" := by
    intro hempty
    rw [hempty] at hparts
    exact hblank hparts.symm
  have htrim : texts.map trim = texts := by
    conv_rhs => rw [← List.map_id texts]
    exact List.map_congr_left fun t ht => (h t ht).2
  rw [splitList, if_neg hjoined]
  conv_rhs => rw [← htrim, ← hparts]
  simp [commaParts, trim]

theorem splitList_of_isElement (h : IsElement text) (hne : text ≠ "") :
    splitList text = [text] := by
  have hsingle : String.intercalate "," [text] = text := by simp
  have hlist : splitList (String.intercalate "," [text]) = [text] :=
    splitList_intercalate (List.cons_ne_nil _ _) (by simpa using hne) (by simpa using h)
  rw [hsingle] at hlist
  exact hlist

theorem commaParts_map_showInt {ns : List Int} (hne : ns ≠ []) :
    commaParts (String.intercalate "," (ns.map showInt)) = ns.map showInt := by
  apply commaParts_intercalate (List.map_eq_nil_iff.not.2 hne)
  intro text htext hcomma
  obtain ⟨n, _, rfl⟩ := List.mem_map.1 htext
  rcases mem_showInt hcomma with h | h
  · cases h
  · cases h

theorem whole_showInt_iff :
    Whole (showInt n) m ↔ (-maxInt32 - 1 ≤ n ∧ n ≤ maxInt32) ∧ m = n := by
  rw [Whole, trim_showInt, int32, boundedInt_showInt, Option.ite_none_right_eq_some,
    Option.some.injEq, eq_comm (a := n)]

end Request

end LayerAtlas
