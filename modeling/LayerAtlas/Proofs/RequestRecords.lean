import LayerAtlas.Proofs.Checks
import LayerAtlas.Proofs.LetterCase
import LayerAtlas.Request.Parameters

namespace LayerAtlas

open Text

namespace Parameter

/-- Every parameter is listed. A query knows it by the keys of a record that are all capitals,
and a record by those keys and by the same in small letters. -/
class Lawful (κ : Type) [Parameter κ] : Prop where
  mem_all (p : κ) : p ∈ (all : List κ)
  mem_keys_of_ofKey {name : String} {p : κ} : ofKey name = some p → name ∈ keys p
  ofKey_of_mem_keys (p : κ) : ∀ key ∈ keys p, ofKey (upper key) = some p
  keys_cased (p : κ) : ∀ key ∈ keys p, (key = upper key ∨ key = lower key) ∧
    upper key ∈ keys p ∧ lower key ∈ keys p

instance : Lawful MapParameter where
  mem_all p := by cases p <;> decide
  mem_keys_of_ofKey h := by
    simp only [ofKey] at h
    split at h <;> cases h <;> decide
  ofKey_of_mem_keys p := by cases p <;> decide +kernel
  keys_cased p := by cases p <;> decide +kernel

instance : Lawful LegendParameter where
  mem_all p := by cases p <;> decide
  mem_keys_of_ofKey h := by
    simp only [ofKey] at h
    split at h <;> cases h <;> decide
  ofKey_of_mem_keys p := by cases p <;> decide +kernel
  keys_cased p := by cases p <;> decide +kernel

variable {κ : Type} [Parameter κ] {p : κ} {key : String}

/-- A key is a name of a parameter, letter case apart. -/
def Names (p : κ) (key : String) : Prop := ∃ name ∈ keys p, sameLetters key name = true

theorem upper_mem_keys_iff [Lawful κ] : upper key ∈ keys p ↔ Names p key := by
  apply Iff.intro
  · intro hkey
    exact ⟨upper key, hkey, sameLetters_iff_upper_eq.2 (upper_upper key).symm⟩
  · rintro ⟨name, hname, hsame⟩
    rw [sameLetters_iff_upper_eq.1 hsame]
    exact (Lawful.keys_cased p name hname).2.1

theorem ofKey_eq_some_iff [Lawful κ] : ofKey (upper key) = some p ↔ Names p key := by
  rw [← upper_mem_keys_iff]
  apply Iff.intro
  · exact Lawful.mem_keys_of_ofKey
  · intro hkey
    rw [← upper_upper key]
    exact Lawful.ofKey_of_mem_keys p (upper key) hkey

theorem mem_keys_iff [Lawful κ] :
    key ∈ keys p ↔ Names p key ∧ (key = upper key ∨ key = lower key) := by
  apply Iff.intro
  · intro hkey
    exact ⟨⟨key, hkey, sameLetters_refl key⟩, (Lawful.keys_cased p key hkey).1⟩
  · rintro ⟨⟨name, hname, hsame⟩, hcased⟩
    obtain ⟨_, hupper, hlower⟩ := Lawful.keys_cased p name hname
    rcases hcased with hcased | hcased
    · rw [hcased, sameLetters_iff_upper_eq.1 hsame]
      exact hupper
    · rw [hcased, sameLetters_iff.1 hsame]
      exact hlower

theorem filter_keys_eq_nil [Lawful κ] {members : List (String × String)}
    (h : ∀ m ∈ members, ¬ Names p m.1) : members.filter (fun m => (keys p).elem m.1) = [] := by
  rw [List.filter_eq_nil_iff]
  exact fun m hm hkey => h m hm (mem_keys_iff.1 (List.elem_iff.1 hkey)).1

instance [Lawful κ] : Decidable (Names p key) := decidable_of_iff _ upper_mem_keys_iff

/-- The entries of a record with the keys of some parameters: no key is given twice, a key that
names a parameter is all capitals or all small letters, and no parameter is given under two
keys. -/
structure Legible (κ : Type) [Parameter κ] (members : List (String × String)) : Prop where
  nodup : (members.map Prod.fst).Nodup
  cased : ∀ m ∈ members, ∀ p : κ, Names p m.1 → m.1 = upper m.1 ∨ m.1 = lower m.1
  single : ∀ p : κ, ∀ m ∈ members, ∀ n ∈ members, Names p m.1 → Names p n.1 → m.1 = n.1

namespace Legible

variable {members entries : List (String × String)} {m : String × String}

theorem perm (h : Legible κ members) (hentries : entries.Perm members) : Legible κ entries where
  nodup := (hentries.map Prod.fst).nodup_iff.2 h.nodup
  cased m hm := h.cased m (hentries.mem_iff.1 hm)
  single p m hm n hn := h.single p m (hentries.mem_iff.1 hm) n (hentries.mem_iff.1 hn)

theorem exists_append (h : Legible κ members) (hm : m ∈ members) (hnames : Names p m.1) :
    ∃ before after, members = before ++ m :: after ∧ (∀ n ∈ before, ¬ Names p n.1) ∧
      ∀ n ∈ after, ¬ Names p n.1 := by
  obtain ⟨before, after, rfl⟩ := List.append_of_mem hm
  have hkey : m.1 ∉ before.map Prod.fst ++ after.map Prod.fst := by
    have hnodup := h.nodup
    rw [List.map_append, List.map_cons] at hnodup
    exact (List.nodup_cons.1 (List.nodup_middle.1 hnodup)).1
  have hsame : ∀ n ∈ before ++ m :: after, Names p n.1 → n.1 = m.1 :=
    fun n hn hn' => h.single p n hn m hm hn' hnames
  refine ⟨before, after, rfl, ?_, ?_⟩
  · intro n hn hn'
    apply hkey
    rw [← hsame n (List.mem_append_left _ hn) hn']
    exact List.mem_append_left _ (List.mem_map_of_mem hn)
  · intro n hn hn'
    apply hkey
    rw [← hsame n (List.mem_append_right _ (List.mem_cons_of_mem m hn)) hn']
    exact List.mem_append_right _ (List.mem_map_of_mem hn)

instance [Lawful κ] : Decidable (Legible κ members) :=
  decidable_of_iff ((members.map Prod.fst).Nodup ∧
      ∀ p ∈ (all : List κ), (∀ m ∈ members, Names p m.1 → m.1 = upper m.1 ∨ m.1 = lower m.1) ∧
        ∀ m ∈ members, ∀ n ∈ members, Names p m.1 → Names p n.1 → m.1 = n.1) <| by
    apply Iff.intro
    · intro h
      exact ⟨h.1, fun m hm p => (h.2 p (Lawful.mem_all p)).1 m hm, fun p =>
        (h.2 p (Lawful.mem_all p)).2⟩
    · intro h
      exact ⟨h.nodup, fun p _ => ⟨fun m hm => h.cased m hm p, h.single p⟩⟩

end Legible

end Parameter

open Parameter (Names Lawful Legible ofKey_eq_some_iff mem_keys_iff filter_keys_eq_nil)

namespace Parameters

variable {κ : Type} [Parameter κ] [Lawful κ] [DecidableEq κ] {p : κ}
  {pairs members entries : List (String × String)} {value : String}

theorem ofPairs_concat {pair : String × String} : ofPairs (pairs ++ [pair]) p =
    if Names p pair.1 then some pair.2 else ofPairs pairs p := by
  rw [ofPairs, List.foldl_append, List.foldl_cons, List.foldl_nil, ← ofPairs, addPair]
  simp only [← ofKey_eq_some_iff]
  cases (Parameter.ofKey (upper pair.1) : Option κ) with
  | none => rfl
  | some p' =>
    simp only [set, Option.some.injEq]
    exact if_congr eq_comm rfl rfl

theorem ofPairs_eq_find? (pairs : List (String × String)) (p : κ) :
    ofPairs pairs p = (pairs.reverse.find? fun pair => Names p pair.1).map Prod.snd := by
  induction pairs using List.reverseRecOn with
  | nil => rfl
  | append_singleton pairs pair ih =>
    rw [ofPairs_concat, List.reverse_concat, List.find?_cons, ih]
    by_cases hnames : Names p pair.1
    · simp only [hnames, if_true, decide_true, Option.map_some]
    · simp only [hnames, if_false, decide_false]

theorem ofPairs_eq_some_iff :
    ofPairs pairs p = some value ↔ ∃ before key after, pairs = before ++ (key, value) :: after ∧
      Names p key ∧ ∀ pair ∈ after, ¬ Names p pair.1 := by
  simp only [ofPairs_eq_find?, Option.map_eq_some_iff, Checks.find?_reverse_eq_some_iff,
    decide_eq_true_eq, decide_eq_false_iff_not]
  apply Iff.intro
  · rintro ⟨⟨key, _⟩, ⟨hkey, before, after, hpairs, hafter⟩, rfl⟩
    exact ⟨before, key, after, hpairs, hkey, hafter⟩
  · rintro ⟨before, key, after, hpairs, hkey, hafter⟩
    exact ⟨(key, value), ⟨hkey, before, after, hpairs, hafter⟩, rfl⟩

theorem ofPairs_eq_none_iff : ofPairs pairs p = none ↔ ∀ pair ∈ pairs, ¬ Names p pair.1 := by
  simp only [ofPairs_eq_find?, Option.map_eq_none_iff, List.find?_eq_none, List.mem_reverse,
    decide_eq_true_eq]

theorem ofPairs_append_cons {before after : List (String × String)} {key : String}
    (h : ¬ Names p key) :
    ofPairs (before ++ (key, value) :: after) p = ofPairs (before ++ after) p := by
  simp only [ofPairs_eq_find?, List.reverse_append, List.reverse_cons, List.append_assoc,
    List.singleton_append, List.find?_append, List.find?_cons, h, decide_false]

theorem ofPairs_eq_some_iff_of_legible (h : Legible κ members) :
    ofPairs members p = some value ↔ ∃ key, (key, value) ∈ members ∧ Names p key := by
  rw [ofPairs_eq_some_iff]
  apply Iff.intro
  · rintro ⟨before, key, after, rfl, hnames, _⟩
    exact ⟨key, List.mem_append_right _ List.mem_cons_self, hnames⟩
  · rintro ⟨key, hmem, hnames⟩
    obtain ⟨before, after, hmembers, _, hafter⟩ := h.exists_append hmem hnames
    exact ⟨before, key, after, hmembers, hnames, hafter⟩

theorem ofPairs_perm (h : Legible κ members) (hentries : entries.Perm members) :
    (ofPairs entries : Parameters κ) = ofPairs members := by
  funext p
  apply Option.ext
  intro value
  rw [ofPairs_eq_some_iff_of_legible (h.perm hentries), ofPairs_eq_some_iff_of_legible h]
  simp only [hentries.mem_iff]

def toObject (members : List (String × String)) : Json.Node :=
  .object (members.map fun m => (some m.1, .text (some m.2)))

def toRecord (members : List (String × String)) : Record Json.Node :=
  .named (members.map fun m => (m.1, .text (some m.2)))

theorem ofNode?_toObject (arity : Nat) :
    Record.ofNode? arity (toObject members) = some (toRecord members) := by
  have hmembers :
      (toObject members).members = some (members.map fun m => (m.1, .text (some m.2))) := by
    rw [toObject, Json.Node.members, List.mapM_map]
    exact List.mapM_pure
  simp only [Record.ofNode?, Document.members, hmembers, toRecord]

theorem ofSlot_toRecord (h : Legible κ members) (place : Nat) :
    ofSlot (toRecord members) p place = some (p, ofPairs members p) := by
  cases hvalue : (ofPairs members p : Option String) with
  | none =>
    have hnone : members.filter (fun m => (Parameter.keys p).elem m.1) = [] :=
      filter_keys_eq_nil (ofPairs_eq_none_iff.1 hvalue)
    simp only [ofSlot, toRecord, Record.slot, List.filter_map, Function.comp_def, hnone]
    rfl
  | some value =>
    obtain ⟨key, hmem, hnames⟩ := (ofPairs_eq_some_iff_of_legible h).1 hvalue
    obtain ⟨before, after, hmembers, hbefore, hafter⟩ := h.exists_append hmem hnames
    have hkey : (Parameter.keys p).elem key = true :=
      List.elem_iff.2 (mem_keys_iff.2 ⟨hnames, h.cased _ hmem p hnames⟩)
    have hone : members.filter (fun m => (Parameter.keys p).elem m.1) = [(key, value)] := by
      rw [hmembers, List.filter_append, List.filter_cons, if_pos hkey,
        filter_keys_eq_nil hbefore, filter_keys_eq_nil hafter, List.nil_append]
    simp only [ofSlot, toRecord, Record.slot, List.filter_map, Function.comp_def, hone]
    rfl

theorem ofDocument_toObject (h : Legible κ members) :
    ofDocument (toObject members) = some (ofPairs members : Parameters κ) := by
  have hvalues :
      ((Parameter.all : List κ).zipIdx.mapM fun q => ofSlot (toRecord members) q.1 q.2) =
        some ((Parameter.all : List κ).map fun p => (p, ofPairs members p)) := by
    rw [Checks.mapM_congr fun q _ => ofSlot_toRecord h q.2]
    calc (Parameter.all : List κ).zipIdx.mapM (fun q => some (q.1, ofPairs members q.1))
      _ = some ((Parameter.all : List κ).zipIdx.map fun q => (q.1, ofPairs members q.1)) :=
        List.mapM_pure
      _ = some (((Parameter.all : List κ).zipIdx.map Prod.fst).map fun p =>
          (p, ofPairs members p)) := by
        rw [List.map_map, Function.comp_def]
      _ = some ((Parameter.all : List κ).map fun p => (p, ofPairs members p)) := by
        rw [List.zipIdx_map_fst]
  have hlookup :
      ∀ p : κ, (((Parameter.all : List κ).map fun p => (p, ofPairs members p)).lookup p).join =
        ofPairs members p := by
    intro p
    rw [List.lookup_graph _ (Lawful.mem_all p), Option.join_some]
  rw [ofDocument, ofNode?_toObject, Option.bind_eq_bind, Option.bind_some, Option.bind_eq_bind,
    hvalues, Option.bind_some]
  exact congrArg some (funext hlookup)

/-- An object with legible texts as members is read, as the parameters that its entries are in
any order as pairs. Of any pairs, the last one that names a parameter gives its value, and those
that do not name it do not count. -/
theorem ofJson_eq_ofPairs :
    (∀ members, Legible κ members → ∀ entries, entries.Perm members →
      ofDocument (toObject members) = some (ofPairs entries : Parameters κ) ∧
        ∀ text, Json.read text = some (toObject members) →
          ofJson text = some (ofPairs entries : Parameters κ)) ∧
    ∀ (pairs : List (String × String)) (p : κ),
      (∀ value, ofPairs pairs p = some value ↔
        ∃ before key after, pairs = before ++ (key, value) :: after ∧
        Names p key ∧ ∀ pair ∈ after, ¬ Names p pair.1) ∧
      (ofPairs pairs p = none ↔ ∀ pair ∈ pairs, ¬ Names p pair.1) ∧
      ∀ before key value after, pairs = before ++ (key, value) :: after → ¬ Names p key →
        ofPairs pairs p = ofPairs (before ++ after) p := by
  apply And.intro
  · intro members h entries hentries
    rw [ofPairs_perm h hentries]
    refine ⟨ofDocument_toObject h, ?_⟩
    intro text htext
    rw [ofJson, htext, Option.bind_some, ofDocument_toObject h]
  · intro pairs p
    refine ⟨fun value => ofPairs_eq_some_iff, ofPairs_eq_none_iff, ?_⟩
    rintro before key value after rfl hnames
    exact ofPairs_append_cons hnames

def iceMembers : List (String × String) :=
  [("srs", "EPSG:3067"), ("Debug", "on"), ("ORIGINTIME", "2024")]

def iceText : String :=
  "\x7b\"srs\":\"EPSG:3067\",\"Debug\":\"on\",\"ORIGINTIME\":\"2024\"\x7d"

def legendMembers : List (String × String) :=
  [("layer", "ice"), ("Layers", "sea"), ("FORMAT", "image/png")]

def legendText : String :=
  "\x7b\"layer\":\"ice\",\"Layers\":\"sea\",\"FORMAT\":\"image/png\"\x7d"

theorem read_iceText : Json.read iceText = some (toObject iceMembers) := by cbv

theorem read_legendText : Json.read legendText = some (toObject legendMembers) := by cbv

/-- Map and legend requests whose keys are in both cases, one of them no name of a parameter. -/
theorem ofJson_eq_ofPairs_ice :
    Legible MapParameter iceMembers ∧ Json.read iceText = some (toObject iceMembers) ∧
      ofJson iceText = some (ofPairs iceMembers.reverse : Parameters MapParameter) ∧
      Legible LegendParameter legendMembers ∧
      Json.read legendText = some (toObject legendMembers) ∧
      ofJson legendText = some (ofPairs legendMembers.reverse : Parameters LegendParameter) ∧
      ofPairs [("CRS", "EPSG:4326"), ("Srs", "EPSG:3067"), ("Debug", "on")] MapParameter.crs =
        some "EPSG:3067" := by
  have hmap : Legible MapParameter iceMembers := by decide +kernel
  have hlegend : Legible LegendParameter legendMembers := by decide +kernel
  have hread := (ofJson_eq_ofPairs.1 iceMembers hmap _ iceMembers.reverse_perm).2 _ read_iceText
  have hreadLegend :=
    (ofJson_eq_ofPairs.1 legendMembers hlegend _ legendMembers.reverse_perm).2 _ read_legendText
  have hlast := ((ofJson_eq_ofPairs.2
    [("CRS", "EPSG:4326"), ("Srs", "EPSG:3067"), ("Debug", "on")] MapParameter.crs).1
    "EPSG:3067").2
      ⟨[("CRS", "EPSG:4326")], "Srs", [("Debug", "on")],
        rfl, by decide +kernel, by decide +kernel⟩
  exact ⟨hmap, read_iceText, hread, hlegend, read_legendText, hreadLegend, hlast⟩

end Parameters

end LayerAtlas
