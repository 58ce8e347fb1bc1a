import LayerAtlas.Proofs.DurationForms
import Mathlib.Data.List.Nodup

namespace LayerAtlas.Duration

variable {before after rest s xs ds ds' : List Char} {designator c : Char} {n : Nat}
  {number : Option DigitRun}
  {text : String}

def letters (s : List Char) : List Char := s.filter fun c => !c.isDigit

def designators : List Char := ['D', 'H', 'M', 'S']

/-- Every digit is followed by another digit or by a designator. -/
def Designated : List Char → Prop
  | [] => True
  | c :: s =>
    (c.isDigit = true → ∃ d, s.head? = some d ∧ (d.isDigit = true ∨ d ∈ designators)) ∧
      Designated s

/-- No letter is repeated or out of order, and no digits lack a designator. -/
structure Tidy (s : List Char) : Prop where
  ordered : (letters s).Sublist ['P', 'D', 'T', 'H', 'M', 'S']
  designated : Designated s

theorem mem_letters : c ∈ letters s ↔ c ∈ s ∧ c.isDigit = false := by
  rw [letters, List.mem_filter, Bool.not_eq_true']

theorem letters_append (s t : List Char) : letters (s ++ t) = letters s ++ letters t :=
  List.filter_append s t

theorem letters_cons (hc : c.isDigit = false) : letters (c :: s) = c :: letters s :=
  List.filter_cons_of_pos (by rw [hc]; rfl)

theorem isDigit_of_letters_eq_nil (h : letters s = []) : ∀ c ∈ s, c.isDigit = true := by
  intro c hc
  have hdigit := List.filter_eq_nil_iff.1 h c hc
  simpa using hdigit

theorem isDigit_of_mem_designators (h : c ∈ designators) : c.isDigit = false := by
  simp only [designators, List.mem_cons, List.not_mem_nil, or_false] at h
  rcases h with rfl | rfl | rfl | rfl
  all_goals rfl

section Forms

theorem letters_field (hdesignator : designator.isDigit = false) :
    (letters (field number designator)).Sublist [designator] := by
  cases number with
  | none => exact List.nil_sublist _
  | some run =>
    have hrun : letters run.chars = [] := by
      apply List.filter_eq_nil_iff.2
      intro c hc
      rw [run.digits c hc]
      exact Bool.false_ne_true
    rw [field, letters_append, hrun, List.nil_append, letters_cons hdesignator]
    exact List.Sublist.refl _

theorem Designated.cons (hc : c.isDigit = false) (h : Designated s) : Designated (c :: s) := by
  apply And.intro _ h
  intro hdigit
  rw [hc] at hdigit
  cases hdigit

theorem Designated.run (hxs : ∀ c ∈ xs, c.isDigit = true) (hd : designator ∈ designators)
    (h : Designated rest) :
    Designated (xs ++ designator :: rest) := by
  induction xs with
  | nil => exact h.cons (isDigit_of_mem_designators hd)
  | cons c xs ih =>
    apply And.intro
    · intro _
      cases xs with
      | nil => exact ⟨designator, rfl, .inr hd⟩
      | cons d xs => exact ⟨d, rfl, .inl (hxs d (List.mem_cons_of_mem c List.mem_cons_self))⟩
    · exact ih fun d hd => hxs d (List.mem_cons_of_mem c hd)

theorem Designated.field (hd : designator ∈ designators) (h : Designated rest) :
    Designated (field number designator ++ rest) := by
  cases number with
  | none => exact h
  | some run =>
    rw [Duration.field, List.append_assoc]
    exact Designated.run run.digits hd h

theorem Form.tidy_text (f : Form) : Tidy f.text := by
  apply Tidy.mk
  · have htime : (letters f.timeText).Sublist ['T', 'H', 'M', 'S'] := by
      rw [timeText]
      split
      · exact List.nil_sublist _
      · rw [letters_cons rfl, letters_append, letters_append]
        apply List.Sublist.cons_cons
        exact (letters_field rfl).append ((letters_field rfl).append (letters_field rfl))
    rw [Form.text, letters_cons rfl, letters_append]
    apply List.Sublist.cons_cons
    exact (letters_field rfl).append htime
  · have htime : Designated f.timeText := by
      rw [timeText]
      split
      · trivial
      · apply Designated.cons rfl
        apply Designated.field (by decide)
        apply Designated.field (by decide)
        rw [← List.append_nil (Duration.field _ 'S')]
        exact Designated.field (by decide) trivial
    exact Designated.cons rfl (Designated.field (by decide) htime)

end Forms

section Texts

theorem Designated.of_append (h : Designated (xs ++ rest)) : Designated rest := by
  induction xs with
  | nil => exact h
  | cons c xs ih => exact ih h.2

theorem Designated.eq_nil (h : Designated (xs ++ rest)) (hxs : letters xs = [])
    (hrest : ∀ d, rest.head? = some d → d.isDigit = false ∧ d ∉ designators) : xs = [] := by
  induction xs with
  | nil => rfl
  | cons c xs ih =>
    have hdigits := isDigit_of_letters_eq_nil hxs
    have htail : letters xs = [] :=
      List.filter_eq_nil_iff.2 fun d hd => by simp [hdigits d (List.mem_cons_of_mem c hd)]
    obtain ⟨d, hd, hnext⟩ := h.1 (hdigits c List.mem_cons_self)
    rw [ih h.2 htail] at hd
    obtain ⟨hdigit, hdesignator⟩ := hrest d hd
    rcases hnext with hnext | hnext
    · rw [hdigit] at hnext
      cases hnext
    · exact absurd hnext hdesignator

def Numbered (s : List Char) : Prop :=
  ∀ before d after, s = before ++ d :: after → d ∈ designators →
    ∃ c, before.getLast? = some c ∧ c.isDigit = true

theorem Numbered.of_append (h : Numbered (xs ++ c :: rest)) (hc : c.isDigit = false) :
    Numbered rest := by
  intro before d after hrest hd
  have hwhole : xs ++ c :: rest = (xs ++ c :: before) ++ d :: after := by simp [hrest]
  obtain ⟨e, he, hdigit⟩ := h _ d after hwhole hd
  rw [List.getLast?_append_cons] at he
  cases before with
  | nil =>
    rw [List.getLast?_singleton, Option.some.injEq] at he
    rw [← he, hc] at hdigit
    cases hdigit
  | cons b before =>
    rw [List.getLast?_cons_cons] at he
    exact ⟨e, he, hdigit⟩

/-- The rest of a text, in which these letters may follow in their order. -/
structure Remains (ds s : List Char) : Prop where
  ordered : (letters s).Sublist ds
  designated : Designated s
  numbered : Numbered s

theorem Remains.eq_nil (h : Remains [] s) : s = [] := by
  have hletters : letters s = [] := List.sublist_nil.1 h.ordered
  have hs : Designated (s ++ []) := by
    rw [List.append_nil]
    exact h.designated
  apply hs.eq_nil hletters
  intro d hd
  cases hd

theorem Remains.of_append (h : Remains ds (xs ++ c :: rest)) (hc : c.isDigit = false)
    (hordered : (letters rest).Sublist ds') : Remains ds' rest := by
  have hrest : Designated (c :: rest) := h.designated.of_append
  exact ⟨hordered, hrest.2, h.numbered.of_append hc⟩

theorem Remains.cases (h : Remains (c :: ds) s) :
    Remains ds s ∨ ∃ xs rest, s = xs ++ c :: rest ∧ letters xs = [] ∧ Remains ds rest := by
  rcases List.sublist_cons_iff.1 h.ordered with hskip | ⟨r, hr, hsub⟩
  · exact .inl ⟨hskip, h.designated, h.numbered⟩
  · obtain ⟨xs, rest, rfl, hxs, hc, rfl⟩ := List.filter_eq_cons_iff.1 hr
    rw [Bool.not_eq_true'] at hc
    exact .inr ⟨xs, rest, rfl, List.filter_eq_nil_iff.2 hxs, h.of_append hc hsub⟩

theorem Remains.exists_field (h : Remains (designator :: ds) s)
    (hd : designator ∈ designators) :
    ∃ number rest, s = field number designator ++ rest ∧ Remains ds rest := by
  rcases h.cases with hskip | ⟨xs, rest, rfl, hxs, hrest⟩
  · exact ⟨none, s, rfl, hskip⟩
  · have hne : xs ≠ [] := by
      rintro rfl
      obtain ⟨c, hc, _⟩ := h.numbered [] designator rest rfl hd
      cases hc
    refine ⟨some ⟨xs, hne, isDigit_of_letters_eq_nil hxs⟩, rest, ?_, hrest⟩
    rw [field, List.append_assoc, List.singleton_append]

/-- In a tidy text a letter stands once, so that its first and its last occurrence are the
same. -/
theorem Tidy.not_mem (h : Tidy (before ++ c :: after)) (hc : c.isDigit = false) :
    c ∉ before ∧ c ∉ after := by
  have hnodup : (letters (before ++ c :: after)).Nodup := h.ordered.nodup (by decide)
  rw [letters_append, letters_cons hc, List.nodup_middle, List.nodup_cons] at hnodup
  have hnot := hnodup.1
  rw [← letters_append, mem_letters, List.mem_append] at hnot
  exact ⟨fun hmem => hnot ⟨.inl hmem, hc⟩, fun hmem => hnot ⟨.inr hmem, hc⟩⟩

theorem of_timeField (h : timeField designator (before ++ designator :: after) = some n)
    (hafter : designator ∉ after) :
    'T' ∈ before ∧ ∃ c, before.getLast? = some c ∧ c.isDigit = true := by
  rw [timeField_append hafter] at h
  split at h
  · rename_i hT
    exact ⟨hT, isDigit_of_numberBefore h⟩
  · cases h

variable {days hours minutes seconds : Nat}

theorem Found.exists_timeField (h : Found s days hours minutes seconds)
    (hd : designator ∈ ['H', 'M', 'S']) :
    ∃ n, timeField designator s = some n := by
  simp only [List.mem_cons, List.not_mem_nil, or_false] at hd
  rcases hd with rfl | rfl | rfl
  · exact ⟨hours, h.hours⟩
  · exact ⟨minutes, h.minutes⟩
  · exact ⟨seconds, h.seconds⟩

theorem Found.numbered (h : Found s days hours minutes seconds) (htidy : Tidy s) :
    Numbered s := by
  rintro before d after rfl hd
  obtain ⟨hbefore, hafter⟩ := htidy.not_mem (isDigit_of_mem_designators hd)
  rcases List.mem_cons.1 hd with rfl | hd
  · have hdays := h.days
    rw [days_append hbefore] at hdays
    split at hdays
    · cases hdays
    · exact isDigit_of_numberBefore hdays
  · obtain ⟨n, hn⟩ := h.exists_timeField hd
    exact (of_timeField hn hafter).2

theorem Found.mem_T (h : Found s days hours minutes seconds) (htidy : Tidy s)
    (hd : designator ∈ ['H', 'M', 'S']) (hmem : designator ∈ s) : 'T' ∈ s := by
  obtain ⟨before, after, rfl⟩ := List.append_of_mem hmem
  obtain ⟨n, hn⟩ := h.exists_timeField hd
  have hdigit : designator.isDigit = false :=
    isDigit_of_mem_designators (List.mem_cons_of_mem 'D' hd)
  exact List.mem_append_left _ (of_timeField hn (htidy.not_mem hdigit).2).1

theorem Found.exists_form (h : Found s days hours minutes seconds) (htidy : Tidy s) :
    ∃ f : Form, s = f.text := by
  obtain ⟨r, rfl⟩ := List.head?_eq_some_iff.1 h.start
  have hwhole : Remains ['P', 'D', 'T', 'H', 'M', 'S'] ([] ++ 'P' :: r) :=
    ⟨htidy.ordered, htidy.designated, h.numbered htidy⟩
  have hordered : (letters ('P' :: r)).Sublist ['P', 'D', 'T', 'H', 'M', 'S'] := htidy.ordered
  rw [letters_cons rfl, List.cons_sublist_cons] at hordered
  obtain ⟨date, r, rfl, hr⟩ := (hwhole.of_append rfl hordered).exists_field (by decide)
  rcases hr.cases with hnoT | ⟨xs, r, rfl, hxs, htime⟩
  · -- the letters that are left need `T`
    have hT : 'T' ∉ 'P' :: (field date 'D' ++ r) := by
      intro hmem
      have hdate : 'T' ∉ field date 'D' := not_mem_field rfl (by decide)
      have hr : 'T' ∈ r := by simpa [hdate] using hmem
      have hletter : 'T' ∈ letters r := mem_letters.2 ⟨hr, rfl⟩
      exact absurd (hnoT.ordered.subset hletter) (by decide)
    have hletters : letters r = [] := by
      apply List.eq_nil_iff_forall_not_mem.2
      intro c hc
      apply hT (h.mem_T htidy (hnoT.ordered.subset hc) _)
      exact List.mem_cons_of_mem _ (List.mem_append_right _ (mem_letters.1 hc).1)
    have hend : Remains [] r := ⟨List.sublist_nil.2 hletters, hnoT.designated, hnoT.numbered⟩
    rw [hend.eq_nil]
    exact ⟨⟨date, none⟩, rfl⟩
  · have hnone : xs = [] := by
      apply hr.designated.eq_nil hxs
      rintro _ ⟨⟩
      decide
    obtain ⟨hour, r, rfl, hminutes⟩ := htime.exists_field (by decide)
    obtain ⟨minute, r, rfl, hseconds⟩ := hminutes.exists_field (by decide)
    obtain ⟨second, r, rfl, hend⟩ := hseconds.exists_field (by decide)
    rw [hnone, hend.eq_nil]
    refine ⟨⟨date, some ⟨hour, minute, second⟩⟩, ?_⟩
    simp [Form.text, Form.timeText]

end Texts

/-- A text is read and tidy exactly if it is a duration of the documented form within the
bounds; what is read of it is then what it says. -/
theorem read_tidy_iff :
    read text = .ok n ∧ Tidy text.toList ↔
    ∃ f : Form, text.toList = f.text ∧ f.InBounds ∧ f.total = n := by
  rw [read_eq_ok_iff]
  apply Iff.intro
  · rintro ⟨hread, htidy⟩
    obtain ⟨_, _, _, _, hfound, _⟩ := minutesOf_eq_some_iff.1 hread
    obtain ⟨f, hf⟩ := hfound.exists_form htidy
    rw [hf, Form.minutesOf_text_eq_some_iff] at hread
    exact ⟨f, hf, hread⟩
  · rintro ⟨f, hf, hbounds⟩
    rw [hf, Form.minutesOf_text_eq_some_iff]
    exact ⟨hbounds, f.tidy_text⟩

/-- Hours before `T` are read over, as another `H` follows: of `P1HT2H` two hours are read. -/
theorem read_hours_beforeT :
    read "P1HT2H" = .ok 120 ∧ ∀ f : Form, "P1HT2H".toList ≠ f.text := by
  apply And.intro
  · rw [read_eq_ok_iff]
    decide +kernel
  · intro f hf
    have hordered := f.tidy_text.ordered
    rw [← hf] at hordered
    revert hordered
    decide

end LayerAtlas.Duration
