import Mathlib.Data.List.Forall2
import Mathlib.Data.List.Nodup

namespace LayerAtlas.Checks

variable {ε δ α β γ : Type}

theorem bind_eq_ok {x : Except ε α} {f : α → Except ε β} {b : β} :
    (x >>= f) = .ok b ↔ ∃ a, x = .ok a ∧ f a = .ok b := by
  cases x with
  | error e => simp [bind, Except.bind]
  | ok a => simp [bind, Except.bind]

theorem pure_eq_ok {a b : α} : (pure a : Except ε α) = .ok b ↔ a = b := by
  simp [pure, Except.pure]

theorem map_eq_ok {x : Except ε α} {f : α → β} {b : β} :
    x.map f = .ok b ↔ ∃ a, x = .ok a ∧ f a = b := by
  cases x with
  | error e => simp [Except.map]
  | ok a => simp [Except.map]

theorem mapError_eq_ok {x : Except ε α} {f : ε → δ} {a : α} :
    x.mapError f = .ok a ↔ x = .ok a := by
  cases x with
  | error e => simp [Except.mapError]
  | ok a => simp [Except.mapError]

theorem mapM_eq_ok {f : α → Except ε β} {xs : List α} {ys : List β} :
    xs.mapM f = .ok ys ↔ List.Forall₂ (fun x y => f x = .ok y) xs ys := by
  induction xs generalizing ys with
  | nil => cases ys <;> simp [pure_eq_ok]
  | cons x xs ih =>
    rw [List.mapM_cons, bind_eq_ok]
    apply Iff.intro
    · intro h'
      obtain ⟨y, hy, h⟩ := h'
      obtain ⟨rest, hrest, h⟩ := bind_eq_ok.1 h
      rw [← pure_eq_ok.1 h]
      exact .cons hy (ih.1 hrest)
    · intro h
      cases h with
      | cons hy hrest => exact ⟨_, hy, bind_eq_ok.2 ⟨_, ih.2 hrest, rfl⟩⟩

theorem forM_eq_ok {f : α → Except ε Unit} {xs : List α} {u : Unit} :
    xs.forM f = .ok u ↔ ∀ x ∈ xs, f x = .ok () := by
  induction xs with
  | nil => exact iff_of_true rfl fun x hx => absurd hx List.not_mem_nil
  | cons x xs ih =>
    change (f x >>= fun _ => xs.forM f) = _ ↔ _
    rw [bind_eq_ok, List.forall_mem_cons, ih]
    exact ⟨fun ⟨_, hx, hxs⟩ => ⟨hx, hxs⟩, fun ⟨hx, hxs⟩ => ⟨(), hx, hxs⟩⟩

theorem mapError_bind (x : Except ε α) (f : α → Except ε β) (g : ε → δ) :
    (x >>= f).mapError g = x.mapError g >>= fun a => (f a).mapError g := by
  cases x with
  | error e => rfl
  | ok a => rfl

theorem mapError_mapM (f : α → Except ε β) (g : ε → δ) (xs : List α) :
    (xs.mapM f).mapError g = xs.mapM fun x => (f x).mapError g := by
  induction xs with
  | nil => rfl
  | cons x xs ih =>
    rw [List.mapM_cons, List.mapM_cons, mapError_bind]
    congr 1
    funext y
    rw [mapError_bind, ih]
    rfl

theorem ok_bind {a : α} {f : α → Except ε β} : (.ok a >>= f) = f a := rfl

theorem bind_congr_ok {x : Except ε α} {f g : α → Except ε β} (h : ∀ a, x = .ok a → f a = g a) :
    x >>= f = x >>= g := by
  cases x with
  | error e => rfl
  | ok a => exact h a rfl

section Members

variable {m : Type → Type} [Monad m] {xs : List α}

theorem mapM_congr [LawfulMonad m] {f g : α → m β} (h : ∀ x ∈ xs, f x = g x) :
    xs.mapM f = xs.mapM g := by
  induction xs with
  | nil => rfl
  | cons x xs ih =>
    rw [List.mapM_cons, List.mapM_cons, h x List.mem_cons_self, ih fun y hy =>
      h y (List.mem_cons_of_mem x hy)]

end Members

section Faults

variable {c d : ε → Prop} {cs ds : List (ε → Prop)} {e : ε} {x : Except ε α}
  {f : α → Except ε β}

theorem error_eq_error {cause : ε} : (.error cause : Except ε α) = .error e ↔ e = cause := by
  rw [Except.error.injEq, eq_comm]

theorem bind_eq_error : (x >>= f) = .error e ↔
    x = .error e ∨ ∃ a, x = .ok a ∧ f a = .error e := by
  cases x with
  | error cause => simp [bind, Except.bind]
  | ok a => simp [bind, Except.bind]

theorem pure_ne_error {a : α} : (pure a : Except ε α) ≠ .error e := by
  simp [pure, Except.pure]

theorem map_eq_error {g : α → β} : x.map g = .error e ↔ x = .error e := by
  cases x with
  | error cause => simp [Except.map]
  | ok a => simp [Except.map]

theorem mapError_eq_error {g : ε → δ} {e : δ} :
    x.mapError g = .error e ↔ ∃ cause, x = .error cause ∧ e = g cause := by
  cases x with
  | error cause => simp [Except.mapError, eq_comm]
  | ok a => simp [Except.mapError]

/-- Of several checks, each given by the errors it fails with, the first one that fails does so
with this error. -/
def FirstFault (cs : List (ε → Prop)) (e : ε) : Prop :=
  ∃ before c after, cs = before ++ c :: after ∧ (∀ b ∈ before, ∀ e', ¬ b e') ∧ c e

theorem not_firstFault (h : ∀ c ∈ cs, ∀ e, ¬ c e) : ¬ FirstFault cs e := by
  rintro ⟨before, c, after, rfl, _, he⟩
  exact h c (List.mem_append_right before List.mem_cons_self) e he

theorem firstFault_nil : ¬ FirstFault [] e :=
  not_firstFault fun _ hc => absurd hc List.not_mem_nil

theorem firstFault_cons : FirstFault (c :: cs) e ↔ c e ∨ (∀ e', ¬ c e') ∧ FirstFault cs e := by
  apply Iff.intro
  · rintro ⟨before, b, after, h, hbefore, he⟩
    cases before with
    | nil =>
      cases h
      exact .inl he
    | cons first before =>
      cases h
      have hfirst : ∀ e', ¬ c e' := hbefore c List.mem_cons_self
      exact .inr ⟨hfirst, before, b, after, rfl, fun b hb =>
        hbefore b (List.mem_cons_of_mem c hb), he⟩
  · rintro (he | ⟨hfirst, before, b, after, rfl, hbefore, he⟩)
    · exact ⟨[], c, cs, rfl, fun b hb => absurd hb List.not_mem_nil, he⟩
    · exact ⟨c :: before, b, after, rfl, List.forall_mem_cons.2 ⟨hfirst, hbefore⟩, he⟩

theorem firstFault_singleton : FirstFault [c] e ↔ c e := by
  rw [firstFault_cons, or_iff_left]
  rintro ⟨_, h⟩
  exact firstFault_nil h

theorem forall_not_firstFault_cons :
    (∀ e, ¬ FirstFault (c :: cs) e) ↔ (∀ e, ¬ c e) ∧ ∀ e, ¬ FirstFault cs e := by
  simp only [firstFault_cons]
  apply Iff.intro
  · intro h
    have hc : ∀ e, ¬ c e := fun e he => h e (.inl he)
    exact ⟨hc, fun e he => h e (.inr ⟨hc, he⟩)⟩
  · rintro ⟨hc, hcs⟩ e (he | ⟨_, he⟩)
    · exact hc e he
    · exact hcs e he

theorem firstFault_append :
    FirstFault (cs ++ ds) e ↔
    FirstFault cs e ∨ (∀ e', ¬ FirstFault cs e') ∧ FirstFault ds e := by
  induction cs with
  | nil =>
    simp only [List.nil_append, firstFault_nil, false_or, not_false_eq_true,
      implies_true, true_and]
  | cons c cs ih =>
    rw [List.cons_append, firstFault_cons, ih, forall_not_firstFault_cons, firstFault_cons]
    rw [and_or_left, or_assoc, and_assoc]

theorem firstFault_map_congr {xs : List α} {ys : List β} {c : α → ε → Prop} {d : β → ε → Prop}
    (h : List.Forall₂ (fun a b => ∀ e, c a e ↔ d b e) xs ys) :
    FirstFault (xs.map c) e ↔ FirstFault (ys.map d) e := by
  induction h with
  | nil => exact Iff.rfl
  | cons hcd _ ih => simp only [List.map_cons, firstFault_cons, hcd, ih]

/-- The errors of a computation are those of a check. -/
def FailsBy (x : Except ε α) (c : ε → Prop) : Prop := ∀ e, x = .error e ↔ c e

theorem failsBy_ok (a : α) : FailsBy (.ok a : Except ε α) (FirstFault []) := by
  intro e
  exact iff_of_false (by rintro ⟨⟩) firstFault_nil

theorem failsBy_of_eq_ok {answers : α → Prop} {cause : ε} (hok : ∀ a, x = .ok a ↔ answers a)
    (herror : ∀ e, x = .error e → e = cause) :
    FailsBy x fun e => (∀ a, ¬ answers a) ∧ e = cause := by
  intro e
  cases x with
  | error e' =>
    have hnone : ∀ a, ¬ answers a := fun a ha => by cases (hok a).2 ha
    have hcause : e' = cause := herror e' rfl
    rw [error_eq_error, hcause]
    exact (and_iff_right hnone).symm
  | ok a =>
    refine iff_of_false (by rintro ⟨⟩) ?_
    rintro ⟨hnone, _⟩
    exact hnone a ((hok a).1 rfl)

namespace FailsBy

theorem congr (h : FailsBy x c) (hcd : ∀ e, c e ↔ d e) : FailsBy x d :=
  fun e => (h e).trans (hcd e)

theorem not_of_ok (h : FailsBy x c) {a : α} (ha : x = .ok a) (e : ε) : ¬ c e := by
  intro he
  have herror := (h e).2 he
  rw [ha] at herror
  cases herror

theorem skip (hc : ∀ e, ¬ c e) (h : FailsBy x (FirstFault cs)) :
    FailsBy x (FirstFault (c :: cs)) := by
  intro e
  rw [firstFault_cons, or_iff_right (hc e), and_iff_right hc]
  exact h e

theorem append (hx : FailsBy x (FirstFault cs))
    (hf : ∀ a, x = .ok a → FailsBy (f a) (FirstFault ds)) :
    FailsBy (x >>= f) (FirstFault (cs ++ ds)) := by
  intro e
  rw [firstFault_append, bind_eq_error, hx e]
  refine or_congr_right ?_
  apply Iff.intro
  · rintro ⟨a, ha, he⟩
    exact ⟨hx.not_of_ok ha, (hf a ha e).1 he⟩
  · rintro ⟨hnone, he⟩
    cases hres : x with
    | error e' => exact absurd ((hx e').1 hres) (hnone e')
    | ok a => exact ⟨a, rfl, (hf a hres e).2 he⟩

theorem cons (hx : FailsBy x c) (hf : ∀ a, x = .ok a → FailsBy (f a) (FirstFault ds)) :
    FailsBy (x >>= f) (FirstFault (c :: ds)) :=
  append (hx.congr fun _ => firstFault_singleton.symm) hf

theorem mapM {xs : List α} {checks : α → List (ε → Prop)}
    (h : ∀ a ∈ xs, FailsBy (f a) (FirstFault (checks a))) :
    FailsBy (xs.mapM f) (FirstFault (xs.flatMap checks)) := by
  induction xs with
  | nil => exact failsBy_ok []
  | cons a xs ih =>
    rw [List.mapM_cons, List.flatMap_cons]
    apply append (h a List.mem_cons_self)
    intro b _
    have hrest := (ih fun y hy => h y (List.mem_cons_of_mem a hy)).append fun bs _ =>
      failsBy_ok (b :: bs)
    rw [List.append_nil] at hrest
    exact hrest

theorem forM {f : α → Except ε Unit} {xs : List α} {check : α → ε → Prop}
    (h : ∀ a ∈ xs, FailsBy (f a) (check a)) :
    FailsBy (xs.forM f) (FirstFault (xs.map check)) := by
  induction xs with
  | nil => exact failsBy_ok ()
  | cons a xs ih =>
    change FailsBy (f a >>= fun _ => xs.forM f) _
    rw [List.map_cons]
    exact (h a List.mem_cons_self).cons fun _ _ => ih fun y hy =>
      h y (List.mem_cons_of_mem a hy)

end FailsBy

end Faults

theorem forall₂_zip_left {R : α → β → Prop} {xs : List α} {ys : List β}
    (h : List.Forall₂ R xs ys) :
    List.Forall₂ (fun x a => x.1 = a ∧ R a x.2) (xs.zip ys) xs := by
  induction h with
  | nil => exact .nil
  | cons hxy _ ih => exact .cons ⟨rfl, hxy⟩ ih

theorem exists_forall₂ {R : α → β → Prop} {xs : List α} (h : ∀ x ∈ xs, ∃ y, R x y) :
    ∃ ys, List.Forall₂ R xs ys := by
  induction xs with
  | nil => exact ⟨[], .nil⟩
  | cons x xs ih =>
    obtain ⟨y, hy⟩ := h x List.mem_cons_self
    obtain ⟨ys, hys⟩ := ih fun z hz => h z (List.mem_cons_of_mem x hz)
    exact ⟨y :: ys, .cons hy hys⟩

theorem forall₂_exists {R : α → β → Prop} {xs : List α} {ys : List β} (h : List.Forall₂ R xs ys)
    {x : α} (hx : x ∈ xs) : ∃ y ∈ ys, R x y := by
  induction h with
  | nil => cases hx
  | cons hy _ ih =>
    rcases List.mem_cons.1 hx with rfl | hx
    · exact ⟨_, List.mem_cons_self, hy⟩
    · obtain ⟨y, hmem, hR⟩ := ih hx
      exact ⟨y, List.mem_cons_of_mem _ hmem, hR⟩

theorem forall₂_congr_mem {R S : α → β → Prop} {xs : List α} {ys : List β}
    (h : ∀ x ∈ xs, ∀ y, R x y ↔ S x y) :
    List.Forall₂ R xs ys ↔ List.Forall₂ S xs ys := by
  induction xs generalizing ys with
  | nil => rw [List.forall₂_nil_left_iff, List.forall₂_nil_left_iff]
  | cons x xs ih =>
    simp only [List.forall₂_cons_left_iff, h x List.mem_cons_self, ih fun y hy =>
      h y (List.mem_cons_of_mem x hy)]

theorem forall₂_of_zip {R : α → β → Prop} {S : α × β → γ → Prop}
    {T : α → γ → Prop} {xs : List α} {ys : List β} {zs : List γ} (h : List.Forall₂ R xs ys)
    (h' : List.Forall₂ S (xs.zip ys) zs) (hT : ∀ x y z, R x y → S (x, y) z → T x z) :
    List.Forall₂ T xs zs := by
  induction h generalizing zs with
  | nil =>
    cases h'
    exact .nil
  | cons hy _ ih =>
    cases h' with
    | cons hz hrest => exact .cons (hT _ _ _ hy hz) (ih hrest)

theorem forall₂_join {R : α → β → Prop} {S : α → γ → Prop} {T : β → γ → Prop}
    {xs : List α} {ys : List β} {zs : List γ} (h : List.Forall₂ R xs ys)
    (h' : List.Forall₂ S xs zs) (hT : ∀ x y z, R x y → S x z → T y z) :
    List.Forall₂ T ys zs := by
  induction h generalizing zs with
  | nil =>
    cases h'
    exact .nil
  | cons hy _ ih =>
    cases h' with
    | cons hz hrest => exact .cons (hT _ _ _ hy hz) (ih hrest)

theorem eq_map_of_forall₂ {R : α → β → Prop} {f : α → β} {xs : List α} {ys : List β}
    (hf : ∀ x y, R x y → y = f x) (h : List.Forall₂ R xs ys) : ys = xs.map f := by
  induction h with
  | nil => rfl
  | cons hy _ ih => rw [List.map_cons, hf _ _ hy, ih]

theorem forall₂_filterMap (f : α → Option β) (xs : List α) :
    List.Forall₂ (fun x y => f x = some y) (xs.filter fun x => (f x).isSome)
      (xs.filterMap f) := by
  induction xs with
  | nil => exact .nil
  | cons x xs ih =>
    cases hf : f x with
    | none =>
      rw [List.filterMap_cons_none hf,
        List.filter_cons_of_neg (by rw [hf]; exact Bool.false_ne_true)]
      exact ih
    | some y =>
      rw [List.filterMap_cons_some hf, List.filter_cons_of_pos (by rw [hf]; rfl)]
      exact .cons hf ih

theorem filter_not_eq_none {o : Option α} {p : α → Bool} :
    o.filter (fun a => !p a) = none ↔ ∀ a ∈ o, p a = true := by
  cases o with
  | none => simp
  | some a => simp [Option.filter]

theorem find?_not_eq_none {xs : List α} {p : α → Bool} :
    xs.find? (fun a => !p a) = none ↔ ∀ a ∈ xs, p a = true := by
  simp [List.find?_eq_none]

theorem find?_reverse_eq_some_iff {xs : List α} {p : α → Bool} {x : α} :
    xs.reverse.find? p = some x ↔
      p x = true ∧ ∃ before after, xs = before ++ x :: after ∧ ∀ y ∈ after, p y = false := by
  rw [List.find?_eq_some_iff_append]
  refine and_congr_right fun _ => ?_
  apply Iff.intro
  · intro h
    obtain ⟨before, after, hxs, hbefore⟩ := h
    refine ⟨after.reverse, before.reverse, ?_, ?_⟩
    · rw [List.reverse_eq_iff.1 hxs, List.reverse_append, List.reverse_cons, List.append_assoc,
        List.singleton_append]
    · intro y hy
      simpa using hbefore y (List.mem_reverse.1 hy)
  · intro h
    obtain ⟨before, after, rfl, hafter⟩ := h
    refine ⟨after.reverse, before.reverse, ?_, ?_⟩
    · rw [List.reverse_append, List.reverse_cons, List.append_assoc, List.singleton_append]
    · intro y hy
      simpa using hafter y (List.mem_reverse.1 hy)

theorem find?_eq_some_iff_of_unique {xs : List α} {p : α → Bool}
    (h : ∀ x ∈ xs, ∀ y ∈ xs, p x = true → p y = true → x = y) {x : α} :
    xs.find? p = some x ↔ x ∈ xs ∧ p x = true := by
  apply Iff.intro
  · intro hfind
    exact ⟨List.mem_of_find?_eq_some hfind, List.find?_some hfind⟩
  · intro h'
    obtain ⟨hx, hp⟩ := h'
    cases hfind : xs.find? p with
    | none => exact absurd hp (List.find?_eq_none.1 hfind x hx)
    | some y => rw [h y (List.mem_of_find?_eq_some hfind) x hx (List.find?_some hfind) hp]

theorem find?_key_eq_some_iff [DecidableEq β] {key : α → β} {xs : List α}
    (h : (xs.map key).Nodup) {b : β} {x : α} :
    xs.find? (fun x => key x = b) = some x ↔ x ∈ xs ∧ key x = b := by
  rw [find?_eq_some_iff_of_unique, decide_eq_true_eq]
  intro y hy z hz hyb hzb
  rw [decide_eq_true_eq] at hyb hzb
  exact List.inj_on_of_nodup_map h hy hz (hyb.trans hzb.symm)

end LayerAtlas.Checks
