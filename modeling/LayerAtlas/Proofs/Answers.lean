import LayerAtlas.Answer
import LayerAtlas.Proofs.Checks

namespace LayerAtlas.Answer

open Text

variable {α β : Type} {a b n : Int} {x : Answer Bool} {p p' : Prop} {xs : List α}
  {f : α → Answer Bool}

theorem word_eq (hleast : -maxInt64 - 1 ≤ n) :
    word n = if n ≤ maxInt64 then some n else none := by
  rw [word]
  simp only [hleast, true_and]

theorem word_of_natAbs_le (h : n.natAbs ≤ maxInt64) : word n = some n :=
  if_pos ⟨by omega, by omega⟩

theorem quotient_eq (ha : a.natAbs ≤ maxInt64) (hb : b ≠ 0) :
    quotient a b = some (a.tdiv b) := by
  have hle : (a.tdiv b).natAbs ≤ a.natAbs := by
    rw [Int.natAbs_tdiv]
    exact Nat.div_le_self _ _
  rw [quotient, if_neg hb]
  exact word_of_natAbs_le (by omega)

theorem remainder_eq (ha : a.natAbs ≤ maxInt64) (hb : b ≠ 0) :
    remainder a b = some (a.tmod b) := by
  rw [remainder, quotient_eq ha hb, Option.map_some]

/-- A question is answered, with yes exactly if a condition holds. -/
def Decides (x : Answer Bool) (p : Prop) : Prop := ∃ b, x = some b ∧ (b = true ↔ p)

theorem decides_iff : x.Decides p ↔ x ≠ none ∧ (x = some true ↔ p) := by
  cases x with
  | none => simp [Decides]
  | some b => simp [Decides]

theorem Decides.eq_true (h : x.Decides p) (hp : p) : x = some true := (decides_iff.1 h).2.2 hp

theorem Decides.eq_false (h : x.Decides p) (hp : ¬ p) : x = some false := by
  obtain ⟨b, rfl, hb⟩ := h
  rw [Bool.eq_false_iff.2 fun htrue => hp (hb.1 htrue)]

theorem Decides.congr (h : x.Decides p) (hp : p ↔ p') : x.Decides p' := by
  obtain ⟨b, hx, hb⟩ := h
  exact ⟨b, hx, hb.trans hp⟩

theorem Decides.unique {x' : Answer Bool} (h : x.Decides p) (h' : x'.Decides p) : x = x' := by
  obtain ⟨b, rfl, hb⟩ := h
  obtain ⟨b', rfl, hb'⟩ := h'
  rw [Option.some.injEq, Bool.eq_iff_iff, hb, hb']

theorem anyM_cons {y : α} :
    (y :: xs).anyM f = f y >>= fun b => if b then some true else xs.anyM f := by
  rw [List.anyM]
  congr 1
  funext b
  cases b with
  | false => rfl
  | true => rfl

theorem anyM_eq_false_iff : xs.anyM f = some false ↔ ∀ y ∈ xs, f y = some false := by
  induction xs with
  | nil => exact iff_of_true rfl fun y hy => absurd hy List.not_mem_nil
  | cons y xs ih =>
    rw [anyM_cons, List.forall_mem_cons, ← ih]
    cases f y with
    | none => simp
    | some b => cases b <;> simp

theorem anyM_decides {q : α → Prop} (h : ∀ y ∈ xs, (f y).Decides (q y)) :
    (xs.anyM f).Decides (∃ y ∈ xs, q y) := by
  induction xs with
  | nil => exact ⟨false, rfl, by simp⟩
  | cons y xs ih =>
    obtain ⟨hy, hxs⟩ := List.forall_mem_cons.1 h
    obtain ⟨b, hb, hq⟩ := hy
    rw [anyM_cons, hb]
    cases b with
    | true => exact ⟨true, rfl, by simp [hq.1 rfl]⟩
    | false =>
      refine (ih hxs).congr ?_
      have hnot : ¬ q y := fun h => Bool.false_ne_true (hq.2 h)
      rw [List.exists_mem_cons_iff, or_iff_right hnot]

theorem mapM_eq_some_iff {f : α → Answer β} {ys : List β} :
    xs.mapM f = some ys ↔ List.Forall₂ (fun x y => f x = some y) xs ys := by
  induction xs generalizing ys with
  | nil => cases ys <;> simp [Option.pure_def]
  | cons x xs ih =>
    simp only [List.mapM_cons, Option.bind_eq_bind, Option.bind_eq_some_iff, Option.pure_def,
      Option.some.injEq, List.forall₂_cons_left_iff, ih]
    apply Iff.intro
    · rintro ⟨y, hy, rest, hrest, rfl⟩
      exact ⟨y, rest, hy, hrest, rfl⟩
    · rintro ⟨y, rest, hy, hrest, rfl⟩
      exact ⟨y, hy, rest, hrest, rfl⟩

theorem mapM_cases (f : α → Answer β) (xs : List α) :
    (∃ ys, List.Forall₂ (fun x y => f x = some y) xs ys ∧ xs.mapM f = some ys) ∨
      (∃ x ∈ xs, f x = none) ∧ xs.mapM f = none := by
  cases h : xs.mapM f with
  | some ys => exact .inl ⟨ys, mapM_eq_some_iff.1 h, rfl⟩
  | none =>
    refine .inr ⟨?_, rfl⟩
    by_contra hnot
    have hsome : ∀ x ∈ xs, ∃ y, f x = some y := by
      intro x hx
      exact Option.ne_none_iff_exists'.1 fun hnone => hnot ⟨x, hx, hnone⟩
    obtain ⟨ys, hys⟩ := Checks.exists_forall₂ hsome
    rw [mapM_eq_some_iff.2 hys] at h
    cases h

end LayerAtlas.Answer
