import LayerAtlas.Proofs.AdvertisedValues

namespace LayerAtlas

open Request Text

def Text.IsInt32 (n : Int) : Prop := -maxInt32 - 1 ≤ n ∧ n ≤ maxInt32

instance (n : Int) : Decidable (IsInt32 n) := inferInstanceAs (Decidable (_ ∧ _))

theorem Request.decodeExtent_intercalate {ns : List Int} (hne : ns ≠ [])
    (hfits : ∀ n ∈ ns, IsInt32 n) :
    decodeExtent (String.intercalate "," (ns.map showInt)) = ns.map some := by
  rw [decodeExtent, commaParts_map_showInt hne, List.map_map]
  apply List.map_congr_left
  intro n hn
  exact whole_showInt_iff.2 ⟨hfits n hn, rfl⟩

namespace Elevation

variable {levelType : LevelType} {values : List Int} {e : Elevation} {n : Int}

theorem exists_ofList? (hne : values ≠ []) : ∃ e, ofList? levelType values = some e := by
  obtain ⟨n, hn⟩ := List.exists_mem_of_ne_nil values hne
  have hsome : Ascending.ofList values ≠ [] := List.ne_nil_of_mem (Ascending.mem_ofList.2 hn)
  rw [ofList?, dif_pos hsome]
  exact ⟨_, rfl⟩

theorem of_ofList? (h : ofList? levelType values = some e) :
    e.levelType = levelType ∧ e.values = Ascending.ofList values := by
  rw [ofList?] at h
  split at h
  · cases h
    exact ⟨rfl, rfl⟩
  · cases h

theorem contains_iff : e.contains n = true ↔ n ∈ e.values := List.elem_iff

theorem default_eq (e : Elevation) :
    some e.default = if e.levelType = .pressure then e.values.getLast? else e.values.head? := by
  rw [Elevation.default]
  split
  · exact (List.getLast?_eq_some_getLast e.nonempty).symm
  · exact (List.head?_eq_some_head e.nonempty).symm

end Elevation

namespace IntervalPairs

variable {p : IntervalPairs} {items : List IntervalPair} {a b : Int}

theorem ofList?_eq_some (hne : items ≠ []) :
    ofList? items = some { items, nonempty := hne } := dif_pos hne

theorem contains_iff :
    p.contains a b = true ↔ (a, b) ∈ p.items.map fun i => (i.start, i.stop) := by
  simp [contains, Prod.ext_iff]

theorem decodeExtent_field (p : IntervalPairs) (field : IntervalPair → Int)
    (hfits : ∀ i ∈ p.items, IsInt32 (field i)) :
    decodeExtent (String.intercalate "," (p.items.map fun i => showInt (field i))) =
      (p.items.map field).map some := by
  rw [← decodeExtent_intercalate (List.map_eq_nil_iff.not.2 p.nonempty)
    (List.forall_mem_map.2 hfits), List.map_map]
  rfl

/-- The pair that is meant if none is asked for: the first that is marked as default, or else
the first. -/
inductive DefaultOf : List IntervalPair → IntervalPair → Prop
  | marked {before after : List IntervalPair} {i : IntervalPair} (hmarked : i.isDefault = true)
      (hbefore : ∀ j ∈ before, j.isDefault = false) : DefaultOf (before ++ i :: after) i
  | first {after : List IntervalPair} {i : IntervalPair}
      (hnone : ∀ j ∈ i :: after, j.isDefault = false) :
      DefaultOf (i :: after) i

theorem DefaultOf.mem {i : IntervalPair} (h : DefaultOf items i) : i ∈ items := by
  cases h with
  | marked hmarked hbefore => exact List.mem_append_right _ List.mem_cons_self
  | first hnone => exact List.mem_cons_self

theorem exists_defaultOf (p : IntervalPairs) :
    ∃ i, DefaultOf p.items i ∧ p.default = (i.start, i.stop) := by
  obtain ⟨items, hne⟩ := p
  rw [IntervalPairs.default]
  cases hfind : items.find? fun i => i.isDefault with
  | some i =>
    obtain ⟨hmarked, before, after, rfl, hbefore⟩ := List.find?_eq_some_iff_append.1 hfind
    exact ⟨i, .marked hmarked fun j hj => by simpa using hbefore j hj, rfl⟩
  | none =>
    obtain ⟨i, after, rfl⟩ := List.exists_cons_of_ne_nil hne
    exact ⟨i, .first fun j hj => by simpa using List.find?_eq_none.1 hfind j hj, rfl⟩

end IntervalPairs

/-- From the extent of levels one reads in increasing order the levels that are accepted, which
are those that there are; the default is the last of them for pressure and else the first. From
the two extents of interval ends one reads, place by place, the pairs that are accepted, which
are those that there are; the default is one of them. -/
theorem published_values :
    (∀ levelType values, values ≠ [] → (∀ n ∈ values, IsInt32 n) →
      ∃ (e : Elevation) (ns : List Int), Elevation.ofList? levelType values = some e ∧
        decodeExtent e.extent = ns.map some ∧ Ascending ns ∧
        (∀ n, n ∈ ns ↔ e.contains n = true) ∧
        (∀ n, e.contains n = true ↔ n ∈ values) ∧
        some e.default = if levelType = .pressure then ns.getLast? else ns.head?) ∧
    ∀ items, items ≠ [] → (∀ i ∈ items, IsInt32 i.start ∧ IsInt32 i.stop) →
      ∃ (p : IntervalPairs) (starts stops : List Int), IntervalPairs.ofList? items = some p ∧
        decodeExtent p.startExtent = starts.map some ∧
        decodeExtent p.stopExtent = stops.map some ∧
        starts.length = stops.length ∧
        (∀ a b, (a, b) ∈ starts.zip stops ↔ p.contains a b = true) ∧
        (∀ a b, p.contains a b = true ↔ ∃ i ∈ items, i.start = a ∧ i.stop = b) ∧
        p.default ∈ starts.zip stops ∧ ∃ i, IntervalPairs.DefaultOf items i ∧
          p.default = (i.start, i.stop) := by
  apply And.intro
  · intro levelType values hne hfits
    obtain ⟨e, he⟩ := Elevation.exists_ofList? hne
    obtain ⟨hlevelType, hvalues⟩ := Elevation.of_ofList? he
    have hmem : ∀ n, n ∈ e.values ↔ n ∈ values := by
      intro n
      rw [hvalues, Ascending.mem_ofList]
    have hread : decodeExtent e.extent = e.values.map some :=
      decodeExtent_intercalate e.nonempty fun n hn => hfits n ((hmem n).1 hn)
    refine ⟨e, e.values, he, hread, e.ascending, fun n => Elevation.contains_iff.symm, ?_, ?_⟩
    · intro n
      rw [Elevation.contains_iff, hmem]
    · rw [e.default_eq, hlevelType]
  · intro items hne hfits
    let p : IntervalPairs := { items, nonempty := hne }
    have hpairs : (items.map IntervalPair.start).zip (items.map IntervalPair.stop) =
        items.map fun i => (i.start, i.stop) := List.zip_map'
    refine ⟨p, _, _, IntervalPairs.ofList?_eq_some hne,
      p.decodeExtent_field IntervalPair.start fun i hi => (hfits i hi).1,
      p.decodeExtent_field IntervalPair.stop fun i hi => (hfits i hi).2, ?_, ?_, ?_, ?_, ?_⟩
    · rw [List.length_map, List.length_map]
    · intro a b
      rw [hpairs, IntervalPairs.contains_iff]
    · intro a b
      rw [IntervalPairs.contains_iff]
      simp [p]
    · obtain ⟨i, hi, hdefault⟩ := p.exists_defaultOf
      rw [hpairs, hdefault]
      exact List.mem_map_of_mem hi.mem
    · exact p.exists_defaultOf

def farLevels : List Int := [850, -2147483648, 2147483647, 850]

def sharedStops : List IntervalPair :=
  [{ start := -60, stop := 0 }, { start := -180, stop := 0, isDefault := true },
    { start := 2147483647, stop := -2147483648, isDefault := true }]

theorem published_values_far :
    (∀ n ∈ farLevels, IsInt32 n) ∧ (∀ i ∈ sharedStops, IsInt32 i.start ∧ IsInt32 i.stop) ∧
      (∃ (e : Elevation) (ns : List Int), Elevation.ofList? .pressure farLevels = some e ∧
        e.extent = "-2147483648,850,2147483647" ∧ decodeExtent e.extent = ns.map some ∧
        some e.default = ns.getLast?) ∧
      ∃ (p : IntervalPairs) (starts stops : List Int),
        IntervalPairs.ofList? sharedStops = some p ∧
        p.startExtent = "-60,-180,2147483647" ∧ p.stopExtent = "0,0,-2147483648" ∧
        decodeExtent p.startExtent = starts.map some ∧
        decodeExtent p.stopExtent = stops.map some ∧
        (-180, 0) ∈ starts.zip stops ∧ (-180, -2147483648) ∉ starts.zip stops := by
  have hlevels : ∀ n ∈ farLevels, IsInt32 n := by decide
  have hpairs : ∀ i ∈ sharedStops, IsInt32 i.start ∧ IsInt32 i.stop := by decide
  have hextent :
      (Elevation.ofList? .pressure farLevels).map Elevation.extent =
        some "-2147483648,850,2147483647" := by
    decide +kernel
  have hextents :
      (IntervalPairs.ofList? sharedStops).map (fun p => (p.startExtent, p.stopExtent)) =
        some ("-60,-180,2147483647", "0,0,-2147483648") := by decide +kernel
  refine ⟨hlevels, hpairs, ?_, ?_⟩
  · obtain ⟨e, ns, he, hread, _, _, _, hdefault⟩ :=
      published_values.1 .pressure farLevels (by decide) hlevels
    rw [he] at hextent
    exact ⟨e, ns, he, Option.some.inj hextent, hread, hdefault⟩
  · obtain ⟨p, starts, stops, hp, hstarts, hstops, _, hmem, hvalid, _⟩ :=
      published_values.2 sharedStops (by decide) hpairs
    rw [hp] at hextents
    obtain ⟨hstart, hstop⟩ := Prod.ext_iff.1 (Option.some.inj hextents)
    refine ⟨p, starts, stops, hp, hstart, hstop, hstarts, hstops, ?_, ?_⟩
    · exact (hmem _ _).2 ((hvalid _ _).2 (by decide))
    · intro h
      exact absurd ((hvalid _ _).1 ((hmem _ _).1 h)) (by decide)

end LayerAtlas
