import LayerAtlas.Proofs.Expansion

namespace LayerAtlas.TimeSpec

open Instant

variable {now t : Instant} {room used : Nat} {spec : TimeSpec} {specs : List TimeSpec}
  {ts : List Instant}
  {tss : List (List Instant)} {e : TimeError}

/-- The elements stand for these lists of instants, each of them on its own, and there is room
for all of them. -/
def StandFor (now : Instant) (room : Nat) (specs : List TimeSpec) (tss : List (List Instant)) :
    Prop :=
  List.Forall₂ (fun spec ts => spec.expand now = .ok ts) specs tss ∧ tss.flatten.length ≤ room

/-- An element fails on its own, or else because there is no room left for all that it stands
for. -/
def FailsAfter (now : Instant) (room used : Nat) (spec : TimeSpec) (e : TimeError) : Prop :=
  spec.expand now = .error e ∨
    ∃ ts, spec.expand now = .ok ts ∧ room < used + ts.length ∧ e = .tooManyValues maxTimeValues

theorem expands_current (now : Instant) : Expands now current [now] := expands_single now now

section Intervals

variable {start stop : TimePoint} {minutes : Int}

theorem expandWithin_reversed (hlt : stop.resolve now < start.resolve now) :
    (interval start stop minutes).expandWithin now room = .error (.invalidInterval
      (Timestamp.write (start.resolve now) ++ "/" ++ Timestamp.write (stop.resolve now))) :=
        if_pos hlt

theorem expands_stepless (hle : start.resolve now ≤ stop.resolve now) (hnone : minutes ≤ 0) :
    Expands now (interval start stop minutes) [] := by
  intro room
  rw [expandWithin]
  simp only [if_neg (not_lt.2 hle), if_pos hnone, List.length_nil, if_pos (Nat.zero_le room)]

end Intervals

/-- An element stands for instants whatever room there is, or has an error of its own. -/
theorem expands_or_fails (now : Instant) (spec : TimeSpec) :
    (∃ ts, Expands now spec ts) ∨ ∃ e, ∀ room, spec.expandWithin now room = .error e := by
  cases spec with
  | current => exact .inl ⟨[now], expands_current now⟩
  | single t => exact .inl ⟨[t], expands_single now t⟩
  | interval start stop minutes =>
    by_cases hordered : stop.resolve now < start.resolve now
    · exact .inr ⟨_, fun room => expandWithin_reversed hordered⟩
    by_cases hnone : minutes ≤ 0
    · exact .inl ⟨[], expands_stepless (not_lt.1 hordered) hnone⟩
    by_cases hlong : maxStep < minutes
    · exact .inr ⟨_, fun room => (if_neg hordered).trans ((if_neg hnone).trans (if_pos hlong))⟩
    · have hforward : 0 < minutes * 60 := by omega
      obtain ⟨ts, hwalks⟩ := exists_walks (stop.resolve now) hforward (start.resolve now)
      exact .inl
        ⟨ts, expands_interval (not_lt.1 hordered) (Int.not_le.1 hnone)
        (Int.not_lt.1 hlong) hwalks⟩

theorem expandWithin_eq_ok_iff (hroom : room ≤ maxTimeValues) :
    spec.expandWithin now room = .ok ts ↔ spec.expand now = .ok ts ∧ ts.length ≤ room := by
  rcases expands_or_fails now spec with ⟨us, hus⟩ | ⟨e, he⟩
  · rw [expand, hus, hus]
    grind
  · rw [expand, he, he]
    simp

theorem expandWithin_eq_error_iff (hroom : room ≤ maxTimeValues) :
    spec.expandWithin now room = .error e ↔ FailsAfter now room 0 spec e := by
  rcases expands_or_fails now spec with ⟨us, hus⟩ | ⟨e', he'⟩
  · rw [FailsAfter, expand, hus, hus]
    grind
  · rw [FailsAfter, expand, he', he']
    simp

theorem standFor_nil : StandFor now room [] tss ↔ tss = [] := by
  rw [StandFor, List.forall₂_nil_left_iff]
  refine and_iff_left_of_imp ?_
  rintro rfl
  exact Nat.zero_le room

theorem standFor_cons :
    StandFor now room (spec :: specs) (ts :: tss) ↔
      (spec.expand now = .ok ts ∧ ts.length ≤ room) ∧
      StandFor now (room - ts.length) specs tss := by
  rw [StandFor, StandFor, List.forall₂_cons, List.flatten_cons, List.length_append]
  apply Iff.intro
  · rintro ⟨⟨hts, hall⟩, hlength⟩
    exact ⟨⟨hts, by omega⟩, hall, by omega⟩
  · rintro ⟨⟨hts, hfits⟩, hall, hlength⟩
    exact ⟨⟨hts, hall⟩, by omega⟩

theorem failsAfter_sub {n : Nat} (hn : n ≤ room) :
    FailsAfter now (room - n) used spec e ↔ FailsAfter now room (n + used) spec e := by
  have hless :
      ∀ ts : List Instant, room - n < used + ts.length ↔ room < n + used + ts.length := by
    intro ts
    omega
  simp only [FailsAfter, hless]

theorem expandAllWithin_eq_ok_iff (hroom : room ≤ maxTimeValues) :
    expandAllWithin now room specs = .ok ts ↔
    ∃ tss, StandFor now room specs tss ∧ ts = tss.flatten := by
  induction specs generalizing room ts with
  | nil =>
    simp only [standFor_nil, exists_eq_left, List.flatten_nil]
    rw [expandAllWithin, Except.ok.injEq, eq_comm]
  | cons spec specs ih =>
    have hrest : ∀ us : List Instant, room - us.length ≤ maxTimeValues := by
      intro us
      omega
    rw [expandAllWithin]
    simp only [Checks.bind_eq_ok, Checks.pure_eq_ok, expandWithin_eq_ok_iff hroom, ih (hrest _)]
    apply Iff.intro
    · rintro ⟨us, hus, _, ⟨tss, htss, rfl⟩, rfl⟩
      exact ⟨us :: tss, standFor_cons.2 ⟨hus, htss⟩, rfl⟩
    · rintro ⟨tss, htss, rfl⟩
      obtain ⟨us, tss, _, _, rfl⟩ := List.forall₂_cons_left_iff.1 htss.1
      obtain ⟨hus, hrest⟩ := standFor_cons.1 htss
      exact ⟨us, hus, _, ⟨tss, hrest, rfl⟩, rfl⟩

theorem expandAllWithin_eq_error_iff (hroom : room ≤ maxTimeValues) :
    expandAllWithin now room specs = .error e ↔
    ∃ before spec after tss, specs = before ++ spec :: after ∧
      StandFor now room before tss ∧ FailsAfter now room tss.flatten.length spec e := by
  induction specs generalizing room with
  | nil =>
    refine iff_of_false (by rintro ⟨⟩) ?_
    rintro ⟨before, spec, after, _, h, _⟩
    exact List.append_ne_nil_of_right_ne_nil before (List.cons_ne_nil spec after) h.symm
  | cons first specs ih =>
    have hrest : ∀ us : List Instant, room - us.length ≤ maxTimeValues := by
      intro us
      omega
    rw [expandAllWithin]
    simp only [Checks.bind_eq_error, Checks.pure_ne_error, and_false, exists_false, or_false,
      expandWithin_eq_ok_iff hroom, expandWithin_eq_error_iff hroom, ih (hrest _)]
    apply Iff.intro
    · rintro (hfails | ⟨us, hus, before, spec, after, tss, rfl, htss, hfails⟩)
      · exact ⟨[], first, specs, [], rfl, standFor_nil.2 rfl, hfails⟩
      · refine ⟨first :: before, spec, after, us :: tss, rfl, standFor_cons.2 ⟨hus, htss⟩, ?_⟩
        rw [List.flatten_cons, List.length_append]
        exact (failsAfter_sub hus.2).1 hfails
    · rintro ⟨before, spec, after, tss, heq, htss, hfails⟩
      cases before with
      | nil =>
        cases heq
        rw [standFor_nil.1 htss] at hfails
        exact .inl hfails
      | cons _ before =>
        cases heq
        obtain ⟨us, tss, _, _, rfl⟩ := List.forall₂_cons_left_iff.1 htss.1
        obtain ⟨hus, hbefore⟩ := standFor_cons.1 htss
        rw [List.flatten_cons, List.length_append] at hfails
        exact .inr
          ⟨us, hus, before, spec, after, tss, rfl, hbefore, (failsAfter_sub hus.2).2 hfails⟩

/-- A list of requested times stands for what its elements stand for on their own, one after the
other, if these are instants and not too many of them together. If not, it fails at the first
element that fails on its own, with its error, or that is the first one too many. Neither is
there ever a longer answer, nor do elements after one that the list fails at make a
difference. -/
theorem expandAll_eq_iff (now : Instant) (specs : List TimeSpec) :
    (∀ ts, expandAll now specs = .ok ts ↔ ∃ tss, StandFor now maxTimeValues specs tss ∧
      ts = tss.flatten) ∧
    (∀ e, expandAll now specs = .error e ↔
      ∃ before spec after tss, specs = before ++ spec :: after ∧
        StandFor now maxTimeValues before tss ∧
        FailsAfter now maxTimeValues tss.flatten.length spec e) ∧
    (∀ ts, expandAll now specs = .ok ts → ts.length ≤ maxTimeValues) ∧
    ∀ e, expandAll now specs = .error e → ∀ more, expandAll now (specs ++ more) = .error e := by
  have hlimit : maxTimeValues ≤ maxTimeValues := Nat.le_refl _
  refine ⟨fun ts => expandAllWithin_eq_ok_iff hlimit, fun e =>
    expandAllWithin_eq_error_iff hlimit, ?_, ?_⟩
  · intro ts h
    exact length_expandAllWithin_le h
  · intro e h more
    obtain ⟨before, spec, after, tss, rfl, hbefore, hfails⟩ :=
      (expandAllWithin_eq_error_iff hlimit).1 h
    refine (expandAllWithin_eq_error_iff hlimit).2
      ⟨before, spec, after ++ more, tss, ?_, hbefore, hfails⟩
    rw [List.append_assoc, List.cons_append]

/-- As many timestamps as there is room for are answered. One more is refused, whatever follows
it, but an interval in the wrong order is refused for what it is. -/
theorem expandAll_eq_iff_full :
    let t := ofFirstDay 0 0
    let u := ofFirstDay 60 0
    let full := List.replicate maxTimeValues (single t)
    let reversed := interval (.at u) (.at t) 1
    expandAll t full = .ok (List.replicate maxTimeValues t) ∧
      (List.replicate maxTimeValues t).length ≤ maxTimeValues ∧
      expandAll t (full ++ [single u]) = .error (.tooManyValues maxTimeValues) ∧
      expandAll t (full ++ [single u] ++ [reversed]) = .error (.tooManyValues maxTimeValues) ∧
      expandAll t (full ++ [reversed]) =
        .error (.invalidInterval (Timestamp.write u ++ "/" ++ Timestamp.write t)) := by
  intro t u full reversed
  have hfull : expandAll t full = .ok (List.replicate maxTimeValues t) := by
    have hsingles : full = (List.replicate maxTimeValues t).map single :=
      List.map_replicate.symm
    rw [hsingles, expandAll_singles, List.length_replicate, if_pos (Nat.le_refl _)]
  obtain ⟨tss, htss, hflatten⟩ := ((expandAll_eq_iff t full).1 _).1 hfull
  have hlength : tss.flatten.length = maxTimeValues := by rw [← hflatten, List.length_replicate]
  have hmore : expandAll t (full ++ [single u]) = .error (.tooManyValues maxTimeValues) := by
    refine ((expandAll_eq_iff t _).2.1 _).2
      ⟨full, single u, [], tss, rfl, htss, .inr ⟨[u], rfl, ?_, rfl⟩⟩
    rw [hlength]
    exact Nat.lt_succ_self _
  have hreversed :
      reversed.expand t =
        .error (.invalidInterval (Timestamp.write u ++ "/" ++ Timestamp.write t)) :=
    expandWithin_reversed (by decide)
  exact ⟨hfull, (expandAll_eq_iff t full).2.2.1 _ hfull, hmore,
    (expandAll_eq_iff t _).2.2.2 _ hmore [reversed], ((expandAll_eq_iff t _).2.1 _).2
    ⟨full, reversed, [], tss, rfl, htss, .inl hreversed⟩⟩

end LayerAtlas.TimeSpec
