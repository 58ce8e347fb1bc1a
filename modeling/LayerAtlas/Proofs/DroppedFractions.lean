import LayerAtlas.Proofs.NormalForm
import LayerAtlas.Proofs.Timestamps

namespace LayerAtlas.Timestamp

open Text

variable {s rest : List Char} {c : Char} {n : Nat} {t : Instant} {text : String}

/-- The rest of a text is reached without a `Z` being taken from it. -/
def Passes (s rest : List Char) : Prop := ∃ taken, s = taken ++ rest ∧ 'Z' ∉ taken

namespace Passes

theorem refl (s : List Char) : Passes s s := ⟨[], rfl, List.not_mem_nil⟩

theorem trans {middle : List Char} (h : Passes s middle) (h' : Passes middle rest) :
    Passes s rest := by
  obtain ⟨taken, rfl, hfirst⟩ := h
  obtain ⟨more, rfl, hsecond⟩ := h'
  refine ⟨taken ++ more, (List.append_assoc taken more rest).symm, ?_⟩
  rw [List.mem_append]
  exact not_or.2 ⟨hfirst, hsecond⟩

theorem cons (hc : c ≠ 'Z') (h : Passes s rest) : Passes (c :: s) rest := by
  apply trans _ h
  refine ⟨[c], rfl, ?_⟩
  rw [List.mem_singleton]
  exact hc.symm

theorem mem (h : Passes s rest) (hmem : 'Z' ∈ s) : 'Z' ∈ rest := by
  obtain ⟨taken, rfl, htaken⟩ := h
  exact (List.mem_append.1 hmem).resolve_left htaken

theorem getLast? (h : Passes s rest) (hlast : rest.getLast? = some c) :
    s.getLast? = some c := by
  obtain ⟨taken, rfl, _⟩ := h
  rw [List.getLast?_append, hlast]
  rfl

end Passes

section Readers

theorem ne_Z_of_isDigit (h : c.isDigit = true) : c ≠ 'Z' := by
  rintro rfl
  cases h

theorem passes_spanDigits (most : Nat) (s : List Char) : Passes s (spanDigits most s).2 := by
  induction most generalizing s with
  | zero => exact .refl s
  | succ most ih =>
    cases s with
    | nil => exact .refl []
    | cons c s =>
      rw [spanDigits]
      split
      · rename_i hdigit
        exact (ih s).cons (ne_Z_of_isDigit hdigit)
      · exact .refl (c :: s)

theorem passes_takeNat {least most : Nat} (h : takeNat least most s = some (n, rest)) :
    Passes s rest := by
  have hspan := passes_spanDigits most s
  rw [takeNat, Option.ite_none_right_eq_some] at h
  cases h.2
  exact hspan

theorem passes_expect (hc : c ≠ 'Z') (h : expect c s = some rest) : Passes s rest := by
  cases s with
  | nil => cases h
  | cons d s =>
    rw [expect, Option.ite_none_right_eq_some] at h
    obtain ⟨rfl, h⟩ := h
    cases h
    exact (Passes.refl _).cons hc

theorem passes_trimStart (s : List Char) : Passes s (trimStart s) := by
  refine ⟨s.takeWhile isBlank, List.takeWhile_append_dropWhile.symm, ?_⟩
  intro hmem
  cases List.mem_takeWhile_imp hmem

theorem passes_map {α β : Type} {x : Option (α × List Char)}
    {f : α × List Char → β × List Char} {b : β} (h : x.map f = some (b, rest))
    (hf : ∀ p, (f p).2 = p.2) (hx : ∀ a after, x = some (a, after) → Passes s after) :
    Passes s rest := by
  obtain ⟨⟨a, after⟩, hread, heq⟩ := Option.map_eq_some_iff.1 h
  have hrest : rest = after := (congrArg Prod.snd heq).symm.trans (hf (a, after))
  rw [hrest]
  exact hx a after hread

theorem passes_readYear {y : Int} (h : readYear s = some (y, rest)) : Passes s rest := by
  rw [readYear.eq_def] at h
  split at h
  · exact passes_map h (fun _ => rfl) fun _ _ hread => (passes_takeNat hread).cons (by decide)
  · exact passes_map h (fun _ => rfl) fun _ _ hread => (passes_takeNat hread).cons (by decide)
  · exact passes_map h (fun _ => rfl) fun _ _ hread => passes_takeNat hread

theorem passes_readDivider (h : readDivider s = some rest) : Passes s rest := by
  cases s with
  | nil => cases h
  | cons c s =>
    rw [readDivider, Option.ite_none_right_eq_some] at h
    obtain ⟨hc, h⟩ := h
    cases h
    apply (Passes.refl _).cons
    rintro rfl
    revert hc
    decide

theorem passes_readFraction (h : readFraction s = some (n, rest)) : Passes s rest := by
  rw [readFraction.eq_def] at h
  split at h
  · rename_i s
    have hspan := passes_spanDigits s.length s
    rw [Option.ite_none_left_eq_some] at h
    cases h.2
    exact hspan.cons (by decide)
  · cases h
    exact .refl _

theorem eq_of_readZone {offset : Int} (h : readZone (expect ':') s = some (offset, []))
    (hmem : 'Z' ∈ s) : s = ['Z'] := by
  cases s with
  | nil => cases h
  | cons c s =>
    rw [readZone] at h
    split at h
    · rename_i hletter
      cases h
      rw [List.mem_singleton.1 hmem]
    · rename_i hletter
      rw [Option.ite_none_right_eq_some] at h
      obtain ⟨⟨hours, colon⟩, hhours, h⟩ := Option.bind_eq_some_iff.1 h.2
      obtain ⟨digits, hcolon, h⟩ := Option.bind_eq_some_iff.1 h
      obtain ⟨⟨minutes, after⟩, hminutes, h⟩ := Option.bind_eq_some_iff.1 h
      rw [Option.ite_none_right_eq_some] at h
      cases h.2
      have hc : c ≠ 'Z' := fun hc => hletter (.inl hc)
      have htime := (passes_takeNat hhours).trans (passes_expect (by decide) hcolon)
      exact absurd (((htime.trans (passes_takeNat hminutes)).cons hc).mem hmem) List.not_mem_nil

def Item.Plain : Item → Prop
  | mark c => c ≠ 'Z'
  | _ => True

theorem passes_read {item : Item} {r r' : Reading} (hitem : item.Plain)
    (h : item.read r s = some (r', rest)) :
    Passes s rest := by
  have hnumber : ∀ n after, takeNat 1 2 (trimStart s) = some (n, after) → Passes s after :=
    fun _ _ hread => (passes_trimStart s).trans (passes_takeNat hread)
  cases item with
  | year => exact passes_map h (fun _ => rfl) fun _ _ hread =>
    (passes_trimStart s).trans (passes_readYear hread)
  | month => exact passes_map h (fun _ => rfl) hnumber
  | day => exact passes_map h (fun _ => rfl) hnumber
  | hour => exact passes_map h (fun _ => rfl) hnumber
  | minute => exact passes_map h (fun _ => rfl) hnumber
  | second => exact passes_map h (fun _ => rfl) hnumber
  | mark c =>
    obtain ⟨after, hread, heq⟩ := Option.map_eq_some_iff.1 h
    cases heq
    exact passes_expect hitem hread
  | gap =>
    cases h
    exact passes_trimStart s

theorem passes_readItems {items : List Item} {r r' : Reading}
    (hitems : ∀ item ∈ items, item.Plain) (h : readItems items r s = some (r', rest)) :
    Passes s rest := by
  induction items generalizing r s with
  | nil =>
    cases h
    exact .refl _
  | cons item items ih =>
    obtain ⟨⟨middle, after⟩, hread, hrest⟩ := Option.bind_eq_some_iff.1 h
    have hfirst := passes_read (hitems item List.mem_cons_self) hread
    exact hfirst.trans (ih (fun item hitem => hitems item (List.mem_cons_of_mem _ hitem)) hrest)

theorem plain_of_mem_plainForms {form : List Item} (h : form ∈ plainForms) :
    ∀ item ∈ form, item.Plain := by
  simp only [plainForms, List.mem_cons, List.not_mem_nil, or_false] at h
  rcases h with rfl | rfl | rfl | rfl | rfl
  all_goals simp [Item.Plain]

theorem not_mem_of_readForm {form : List Item} (hform : form ∈ plainForms)
    (h : readForm form s = some t) :
    'Z' ∉ s := by
  rw [readForm] at h
  split at h
  · rename_i hread
    intro hmem
    exact absurd ((passes_readItems (plain_of_mem_plainForms hform) hread).mem hmem)
      List.not_mem_nil
  · cases h

end Readers

/-- Where a text with a `Z` is read as an instant, the `Z` is its last character. -/
def ZuluLast (s : List Char) (result : Option Instant) : Prop :=
  ∀ t, result = some t → 'Z' ∈ s → s.getLast? = some 'Z'

namespace ZuluLast

theorem bind {α : Type} {x : Option α} {f : α → Option Instant}
    (h : ∀ a, x = some a → ∃ rest, Passes s rest ∧ ZuluLast rest (f a)) :
    ZuluLast s (x >>= f) := by
  intro t ht hmem
  obtain ⟨a, ha, ht⟩ := Option.bind_eq_some_iff.1 ht
  obtain ⟨rest, hpasses, hrest⟩ := h a ha
  exact hpasses.getLast? (hrest t ht (hpasses.mem hmem))

theorem takeNat {least most : Nat} {f : Nat × List Char → Option Instant}
    (h : ∀ n rest, ZuluLast rest (f (n, rest))) : ZuluLast s (takeNat least most s >>= f) :=
  bind fun p hp => ⟨p.2, passes_takeNat hp, h p.1 p.2⟩

theorem expect {f : List Char → Option Instant} (hc : c ≠ 'Z')
    (h : ∀ rest, ZuluLast rest (f rest)) :
    ZuluLast s (expect c s >>= f) :=
  bind fun rest hrest => ⟨rest, passes_expect hc hrest, h rest⟩

theorem readDivider {f : List Char → Option Instant} (h : ∀ rest, ZuluLast rest (f rest)) :
    ZuluLast s (readDivider s >>= f) :=
  bind fun rest hrest => ⟨rest, passes_readDivider hrest, h rest⟩

theorem readFraction {f : Nat × List Char → Option Instant}
    (h : ∀ n rest, ZuluLast rest (f (n, rest))) :
    ZuluLast s (readFraction s >>= f) :=
  bind fun p hp => ⟨p.2, passes_readFraction hp, h p.1 p.2⟩

theorem readZone {f : Int × List Char → Option Instant}
    (h : ∀ offset rest t, f (offset, rest) = some t → rest = []) :
    ZuluLast s (readZone (Timestamp.expect ':') s >>= f) := by
  intro t ht hmem
  obtain ⟨⟨offset, rest⟩, hzone, ht⟩ := Option.bind_eq_some_iff.1 ht
  rw [h offset rest t ht] at hzone
  rw [eq_of_readZone hzone hmem]
  rfl

theorem ofRfc3339 (s : List Char) : ZuluLast s (ofRfc3339 s) := by
  apply takeNat
  intro year s
  apply expect (by decide)
  intro s
  apply takeNat
  intro month s
  apply expect (by decide)
  intro s
  apply takeNat
  intro day s
  apply readDivider
  intro s
  apply takeNat
  intro hour s
  apply expect (by decide)
  intro s
  apply takeNat
  intro minute s
  apply expect (by decide)
  intro s
  apply takeNat
  intro second s
  apply readFraction
  intro nanos s
  apply readZone
  intro offset s t ht
  exact (Option.ite_none_right_eq_some.1 ht).1.1

theorem ofChars (s : List Char) : ZuluLast s (ofChars s) := by
  intro t ht hmem
  rcases Option.or_eq_some_iff.1 ht with ht | ⟨_, ht⟩
  · exact ofRfc3339 s t ht hmem
  · obtain ⟨form, hform, ht⟩ := List.exists_of_findSome?_eq_some ht
    have hnone := not_mem_of_readForm hform ht
    rw [dropZulu] at hnone
    split at hnone
    · assumption
    · exact absurd hmem hnone

end ZuluLast

section Dropped

variable {before dropped after : List Char}

theorem read_kept_eq_ok_iff (hpoint : '.' ∉ before)
    (hfirst : ∀ c, before.head? = some c → isBlank c = false) :
    read (String.ofList (before ++ ['Z'])) = .ok t ↔ ofChars (before ++ ['Z']) = some t := by
  have hhead : ∀ c, (before ++ ['Z']).head? = some c → isBlank c = false := by
    intro c hc
    cases before with
    | nil =>
      cases hc
      rfl
    | cons d before => exact hfirst c hc
  have hlast : ∀ c, (before ++ ['Z']).getLast? = some c → isBlank c = false := by
    intro c hc
    rw [List.getLast?_concat] at hc
    cases hc
    rfl
  have hnone : '.' ∉ before ++ ['Z'] := by
    rw [List.mem_append]
    exact not_or.2 ⟨hpoint, by decide⟩
  rw [read_eq_ok_iff, String.toList_ofList, trimChars_eq_self hhead hlast,
    dropFraction_of_not_mem hnone]

/-- A text with a point before its last `Z` is read exactly if it ends in this `Z` and can be
read without what stands between the two, whatever that is. -/
theorem read_point_eq_ok_iff (hpoint : '.' ∉ before) (hzulu : 'Z' ∉ after)
    (htext : trimChars text.toList = before ++ '.' :: (dropped ++ 'Z' :: after)) :
    read text = .ok t ↔ after = [] ∧ read (String.ofList (before ++ ['Z'])) = .ok t := by
  have hfirst : ∀ c, before.head? = some c → isBlank c = false := by
    intro c hc
    apply isBlank_of_head?_trimChars (s := text.toList)
    rw [htext, List.head?_append, hc]
    rfl
  rw [read_eq_ok_iff, htext, dropFraction_between hpoint hzulu,
    read_kept_eq_ok_iff hpoint hfirst]
  apply Iff.intro
  · intro hread
    have hend : (before ++ 'Z' :: after).getLast? = some 'Z' :=
      ZuluLast.ofChars _ t hread (by simp)
    have hafter : after = [] := by
      cases after with
      | nil => rfl
      | cons c after =>
        rw [List.getLast?_append_cons, List.getLast?_cons_cons] at hend
        exact absurd (List.mem_of_mem_getLast? hend) hzulu
    rw [hafter] at hread
    exact ⟨hafter, hread⟩
  · rintro ⟨rfl, hread⟩
    exact hread

def noon : Instant := .ofParts 1705320000 0

/-- A zone two hours ahead is dropped with the fraction that it follows. -/
theorem read_point_zone :
    '.' ∉ "2024-01-15T12:00:00".toList ∧ 'Z' ∉ ([] : List Char) ∧
    read " 2024-01-15T12:00:00.5+02:00Z\n" = .ok noon := by
  have hpoint : '.' ∉ "2024-01-15T12:00:00".toList := by decide +kernel
  have htext : trimChars " 2024-01-15T12:00:00.5+02:00Z\n".toList =
      "2024-01-15T12:00:00".toList ++ '.' :: ("5+02:00".toList ++ 'Z' :: []) := by
      decide +kernel
  have hread : read (String.ofList ("2024-01-15T12:00:00".toList ++ ['Z'])) = .ok noon := by
    with_unfolding_all rfl
  exact ⟨hpoint, List.not_mem_nil,
    (read_point_eq_ok_iff hpoint List.not_mem_nil htext).2 ⟨rfl, hread⟩⟩

def EndsInFraction (s : List Char) : Prop :=
  ∃ before digits, s = before ++ '.' :: (digits ++ ['Z']) ∧ '.' ∉ before ∧ digits ≠ [] ∧
    ∀ c ∈ digits, c.isDigit = true

theorem read_junk :
    read "2024-01-15T12:00:00.junkZ" = .ok noon ∧
    ¬ EndsInFraction "2024-01-15T12:00:00.junkZ".toList := by
  apply And.intro
  · with_unfolding_all rfl
  · rintro ⟨before, digits, htext, hpoint, _, hdigits⟩
    have hdropped := dropWhile_ne hpoint (digits ++ ['Z'])
    rw [← htext] at hdropped
    have hjunk : ".junkZ".toList = '.' :: (digits ++ ['Z']) := hdropped
    have hmem : 'j' ∈ '.' :: (digits ++ ['Z']) := by
      rw [← hjunk]
      decide
    have hletter : 'j' ∈ digits := by simpa using hmem
    cases hdigits 'j' hletter

end Dropped

end LayerAtlas.Timestamp
