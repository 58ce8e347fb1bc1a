
namespace LayerAtlas

def Ascending {α : Type} [LT α] (xs : List α) : Prop := xs.Pairwise (· < ·)

class LinearLT (α : Type) [LT α] : Prop where
  irrefl (a : α) : ¬ a < a
  trans {a b c : α} : a < b → b < c → a < c
  connected {a b : α} : ¬ a < b → ¬ b < a → a = b

namespace Ascending

theorem nodup {α : Type} [LT α] [LinearLT α] {xs : List α} (h : Ascending xs) : xs.Nodup := by
  refine h.imp ?_
  intro a b hab he
  subst he
  exact LinearLT.irrefl _ hab

variable {α : Type} [LT α] [DecidableLT α]

def insert (a : α) : List α → List α
  | [] => [a]
  | b :: r => if a < b then a :: b :: r else if b < a then b :: insert a r else b :: r

def ofList (xs : List α) : List α := xs.foldr insert []

variable [LinearLT α]

@[simp] theorem mem_insert {a x : α} {xs : List α} : x ∈ insert a xs ↔ x = a ∨ x ∈ xs := by
  induction xs with
  | nil => simp [insert]
  | cons b r ih =>
    unfold insert
    split
    · simp
    · split
      · simp [ih]; grind
      · rename_i h₁ h₂
        have := LinearLT.connected h₁ h₂
        simp [this]

@[simp] theorem mem_ofList {x : α} {xs : List α} : x ∈ ofList xs ↔ x ∈ xs := by
  induction xs with
  | nil => simp [ofList]
  | cons a r ih =>
    have : ofList (a :: r) = insert a (ofList r) := rfl
    simp [this, ih]

theorem insert_ascending {a : α} {xs : List α} (h : Ascending xs) :
    Ascending (insert a xs) := by
  induction xs with
  | nil => simp [insert, Ascending]
  | cons b r ih =>
    obtain ⟨hb, hr⟩ := List.pairwise_cons.1 h
    unfold insert
    split
    · rename_i hab
      refine List.pairwise_cons.2 ⟨fun x hx => ?_, h⟩
      rcases List.mem_cons.1 hx with rfl | hx
      · exact hab
      · exact LinearLT.trans hab (hb x hx)
    · split
      · rename_i hba
        refine List.pairwise_cons.2 ⟨fun x hx => ?_, ih hr⟩
        rcases mem_insert.1 hx with rfl | hx
        · exact hba
        · exact hb x hx
      · exact h

theorem ofList_ascending (xs : List α) : Ascending (ofList xs) := by
  induction xs with
  | nil => exact List.Pairwise.nil
  | cons a r ih => exact insert_ascending ih

end Ascending

instance : LinearLT Int where
  irrefl := Int.lt_irrefl
  trans := Int.lt_trans
  connected := by intro a b h₁ h₂; omega

instance : LinearLT String where
  irrefl := String.lt_irrefl
  trans := String.lt_trans
  connected := fun h₁ h₂ => String.le_antisymm (String.not_lt.1 h₂) (String.not_lt.1 h₁)

end LayerAtlas
