import LayerAtlas.Crs
import Mathlib.Data.List.DropRight

namespace LayerAtlas

namespace Text

theorem toNat_toUpper (c : Char) :
    c.toUpper.toNat = if 97 ≤ c.toNat ∧ c.toNat ≤ 122 then c.toNat - 32 else c.toNat := by
  have hlower : ('a'.val ≤ c.val ∧ c.val ≤ 'z'.val) ↔ 97 ≤ c.toNat ∧ c.toNat ≤ 122 := by
    simp only [UInt32.le_iff_toNat_le]
    rfl
  unfold Char.toUpper
  split
  · rename_i h
    have hbounds := hlower.1 h
    rw [if_pos hbounds]
    change (c.val + ('A'.val - 'a'.val)).toNat = c.toNat - 32
    -- the distance to the capitals is subtracted by adding its complement
    have hdistance : ('A'.val - 'a'.val).toNat = 2 ^ 32 - 32 := by decide
    have hval : c.val.toNat = c.toNat := rfl
    rw [UInt32.toNat_add, hdistance, hval]
    omega
  · rename_i h
    rw [if_neg (mt hlower.2 h)]

theorem toUpper_toUpper (c : Char) : c.toUpper.toUpper = c.toUpper := by
  apply Char.toNat_inj.1
  rw [toNat_toUpper c.toUpper, if_neg]
  rw [toNat_toUpper c]
  split
  · omega
  · assumption

theorem isBlank_toUpper (c : Char) : isBlank c.toUpper = isBlank c := by
  simp only [isBlank]
  rw [toNat_toUpper]
  split
  · grind
  · rfl

theorem trimChars_map {f : Char → Char} (hf : ∀ c, isBlank (f c) = isBlank c) (s : List Char) :
    trimChars (s.map f) = (trimChars s).map f := by
  have hcomp : isBlank ∘ f = isBlank := funext hf
  rw [trimChars, trimStart, List.dropWhile_map, hcomp, trimEnd, ← List.map_reverse,
    List.dropWhile_map, hcomp, ← List.map_reverse]
  rfl

theorem trimEnd_prefix (s : List Char) : trimEnd s <+: s := List.rdropWhile_prefix isBlank s

theorem trimEnd_trimEnd (s : List Char) : trimEnd (trimEnd s) = trimEnd s :=
  List.rdropWhile_idempotent isBlank s

theorem trimStart_eq_self_iff {s : List Char} :
    trimStart s = s ↔ ∀ c ∈ s.head?, isBlank c = false := by
  cases s with
  | nil => simp [trimStart]
  | cons c s =>
    rw [trimStart, List.dropWhile_eq_self_iff]
    simp

theorem trimStart_trimStart (s : List Char) : trimStart (trimStart s) = trimStart s := by
  rw [trimStart_eq_self_iff]
  intro c hc
  have hhead := List.head?_dropWhile_not isBlank s
  rw [trimStart] at hc
  rw [Option.mem_def.1 hc] at hhead
  simpa using hhead

theorem trimEnd_cons (c : Char) (s : List Char) :
    trimEnd (c :: s) = if isBlank c = true ∧ trimEnd s = [] then [] else c :: trimEnd s := by
  rw [trimEnd, trimEnd, List.reverse_cons, List.dropWhile_append]
  cases hrest : s.reverse.dropWhile isBlank with
  | nil => by_cases hc : isBlank c = true <;> simp [hc]
  | cons d rest => simp

theorem trimStart_cons_of_isBlank {c : Char} (hc : isBlank c = true) (s : List Char) :
    trimStart (c :: s) = trimStart s :=
  List.dropWhile_cons_of_pos hc

theorem trimStart_cons_of_not_isBlank {c : Char} (hc : ¬ isBlank c = true) (s : List Char) :
    trimStart (c :: s) = c :: s :=
  List.dropWhile_cons_of_neg hc

theorem trimStart_trimEnd (s : List Char) : trimStart (trimEnd s) = trimEnd (trimStart s) := by
  induction s with
  | nil => rfl
  | cons c s ih =>
    rw [trimEnd_cons]
    by_cases hc : isBlank c = true
    · rw [trimStart_cons_of_isBlank hc, ← ih]
      split
      · rename_i hend
        rw [hend.2]
      · exact trimStart_cons_of_isBlank hc (trimEnd s)
    · rw [if_neg fun hend => hc hend.1, trimStart_cons_of_not_isBlank hc,
        trimStart_cons_of_not_isBlank hc, trimEnd_cons, if_neg fun hend => hc hend.1]

theorem trimStart_trimChars (s : List Char) : trimStart (trimChars s) = trimChars s := by
  rw [trimChars, trimStart_trimEnd, trimStart_trimStart]

theorem isBlank_of_head?_trimChars {s : List Char} {c : Char}
    (h : (trimChars s).head? = some c) : isBlank c = false :=
  trimStart_eq_self_iff.1 (trimStart_trimChars s) c h

theorem trimChars_trimChars (s : List Char) : trimChars (trimChars s) = trimChars s := by
  rw [trimChars, trimStart_trimChars, trimChars, trimEnd_trimEnd]

end Text

open Text in
theorem normalCrs_normalCrs (id : String) : normalCrs (normalCrs id) = normalCrs id := by
  apply String.toList_injective
  simp only [normalCrs, upper, trim, String.toList_map, String.toList_ofList]
  rw [trimChars_map isBlank_toUpper, trimChars_trimChars, List.map_map]
  exact List.map_congr_left fun c _ => toUpper_toUpper c

namespace CrsSet

def IsNormal (s : CrsSet) : Prop := ∀ id ∈ s.ids, normalCrs id = id

theorem isNormal_ofReferences (references : List Reference) :
    (ofReferences references).IsNormal := by
  intro id hid
  obtain ⟨r, _, rfl⟩ := List.mem_map.1 (Ascending.mem_ofList.1 hid)
  exact normalCrs_normalCrs r.id

variable {s : CrsSet}

theorem IsNormal.insert (h : s.IsNormal) (id : String) : (s.insert id).IsNormal := by
  intro x hx
  rcases Ascending.mem_insert.1 hx with rfl | hx
  · exact normalCrs_normalCrs id
  · exact h x hx

theorem IsNormal.enable (h : s.IsNormal) (id : String) (references : List Reference) :
    (s.enable id references).IsNormal := by
  rw [CrsSet.enable]
  split
  · exact h.insert id
  · exact h

theorem IsNormal.disable (h : s.IsNormal) (id : String) : (s.disable id).IsNormal := by
  intro x hx
  exact h x (List.mem_of_mem_filter hx)

theorem IsNormal.foldl {f : CrsSet → String → CrsSet} (h : s.IsNormal)
    (hf : ∀ s : CrsSet, s.IsNormal → ∀ id, (f s id).IsNormal) (ids : List String) :
    (ids.foldl f s).IsNormal := by
  induction ids generalizing s with
  | nil => exact h
  | cons id ids ih => exact ih (hf s h id)

end CrsSet

end LayerAtlas
