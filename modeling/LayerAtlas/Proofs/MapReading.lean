import LayerAtlas.Proofs.Checks
import LayerAtlas.Request.Map

namespace LayerAtlas

open Text Request Checks

namespace BoundingBox

/-- A text of four numbers between commas, with or without blanks around them. -/
def Written (text : String) (b : BoundingBox) : Prop :=
  ∃ minX minY maxX maxY : String,
    (text.toList.splitOn ',').map (fun part => String.ofList (trimChars part)) =
      [minX, minY, maxX, maxY] ∧
      floatOfText minX = some b.minX ∧ floatOfText minY = some b.minY ∧
      floatOfText maxX = some b.maxX ∧ floatOfText maxY = some b.maxY

theorem readNumber_eq_ok {text : String} {x : Float} :
    readNumber text = .ok x ↔ floatOfText text = some x := by
  rw [readNumber]
  cases floatOfText text with
  | none => simp
  | some y => simp

theorem read_eq_ok {text : String} {b : BoundingBox} : read text = .ok b ↔ Written text b := by
  rw [read, Written]
  generalize (text.toList.splitOn ',').map (fun part => String.ofList (trimChars part)) = parts
  split
  · rename_i minX minY maxX maxY
    simp only [bind_eq_ok, pure_eq_ok, readNumber_eq_ok]
    apply Iff.intro
    · intro h'
      obtain ⟨a, ha, b', hb, c, hc, d, hd, rfl⟩ := h'
      exact ⟨minX, minY, maxX, maxY, rfl, ha, hb, hc, hd⟩
    · intro h'
      obtain ⟨_, _, _, _, h, ha, hb, hc, hd⟩ := h'
      injection h with h₁ h
      injection h with h₂ h
      injection h with h₃ h
      injection h with h₄ _
      subst h₁ h₂ h₃ h₄
      exact ⟨_, ha, _, hb, _, hc, _, hd, rfl⟩
  · rename_i hparts
    apply Iff.intro
    · intro h
      cases h
    · intro h'
      obtain ⟨_, _, _, _, h, _⟩ := h'
      exact absurd h (hparts _ _ _ _)

end BoundingBox

namespace Request

/-- Named layers with one style for each, or with no styles at all. -/
def Paired (layers styles : List String) (pairs : List (String × String)) : Prop :=
  layers ≠ [] ∧ "" ∉ layers ∧
    ((styles = [] ∧ pairs = layers.map fun layer => (layer, "")) ∨
      (styles ≠ [] ∧ styles.length = layers.length ∧ pairs = layers.zip styles))

def Given (value : Option String) (text : String) : Prop := value = some text ∧ trim text ≠ ""

def Size (text : String) (n : Nat) : Prop := boundedNat maxNat32 (trim text) = some n ∧ 0 < n

def Transparency (value : Option String) (transparent : Bool) : Prop :=
  match value with
  | none => transparent = false
  | some text => sameLetters text (if transparent then "TRUE" else "FALSE") = true

/-- Nothing or the lone word `current`, which stand for no times, or a list that can be
expanded. -/
def Times (now : Instant) (value : Option String) (times : List Instant) : Prop :=
  match value with
  | none => times = []
  | some text => ∃ specs, TimeSpec.readList text = .ok specs ∧
      ((specs = [.current] ∧ times = []) ∨
        (specs ≠ [.current] ∧ TimeSpec.expandAll now specs = .ok times))

def Whole (text : String) (n : Int) : Prop := int32 (trim text) = some n

instance (text : String) (n : Int) : Decidable (Whole text n) :=
  inferInstanceAs (Decidable (_ = _))

def Ends (start stop : Option String) (interval : Option (Int × Int)) : Prop :=
  (start = none ∧ stop = none ∧ interval = none) ∨
    ∃ startText stopText a b, start = some startText ∧ stop = some stopText ∧
      Whole startText a ∧
      Whole stopText b ∧ interval = some (a, b)

theorem zip_replicate_length (names : List String) (style : String) :
    names.zip (List.replicate names.length style) = names.map fun name => (name, style) := by
  induction names with
  | nil => rfl
  | cons name rest ih =>
    rw [List.length_cons, List.replicate_succ, List.zip_cons_cons, ih, List.map_cons]

theorem pairLayers_eq_ok {layers styles : Option String} {pairs : List (String × String)} :
    pairLayers layers styles = .ok pairs ↔
      Paired (splitList (layers.getD "")) (splitList (styles.getD "")) pairs := by
  rw [pairLayers, Paired]
  generalize splitList (layers.getD "") = names
  generalize splitList (styles.getD "") = chosen
  by_cases hnames : names = [] ∨ "" ∈ names
  · simp only [hnames, if_true]
    apply Iff.intro
    · intro h
      cases h
    · intro h'
      obtain ⟨hne, hempty, _⟩ := h'
      exact absurd hnames (not_or.2 ⟨hne, hempty⟩)
  · obtain ⟨hne, hempty⟩ := not_or.1 hnames
    simp only [hnames, if_false]
    cases chosen with
    | nil =>
      simp [hne, hempty, zip_replicate_length, eq_comm]
    | cons style rest =>
      by_cases hlen : (style :: rest).length = names.length
      · simp only [hlen, if_true]
        simp [hne, hempty, eq_comm]
      · simp only [hlen, if_false]
        simp

theorem given_eq_some {value : Option String} {text : String} :
    given value = some text ↔ Given value text := by
  simp [given, Given, Option.filter_eq_some_iff]

theorem required_eq_ok {name text : String} {value : Option String} :
    required name value = .ok text ↔ Given value text := by
  rw [← given_eq_some, required]
  cases given value with
  | none => simp
  | some v => simp

theorem requiredDimension_eq_ok {name text : String} {value : Option String} :
    requiredDimension name value = .ok text ↔ Given value text := by
  rw [← given_eq_some, requiredDimension]
  cases given value with
  | none => simp
  | some v => simp

theorem readSize_eq_ok {name text : String} {n : Nat} :
    readSize name text = .ok n ↔ Size text n := by
  unfold readSize Size
  cases boundedNat maxNat32 (trim text) with
  | none => simp
  | some m =>
    by_cases hm : 0 < m
    · simp only [Option.filter, hm, decide_true, if_true, Except.ok.injEq, Option.some.injEq]
      apply Iff.intro
      · rintro rfl
        exact ⟨rfl, hm⟩
      · exact And.left
    · simp only [Option.filter, hm, decide_false, Option.some.injEq]
      apply Iff.intro
      · intro h
        cases h
      · intro h'
        obtain ⟨rfl, hn⟩ := h'
        exact absurd hn hm

theorem lower_true_ne_lower_false : lower "TRUE" ≠ lower "FALSE" := by
  intro h
  have hlist := congrArg String.toList h
  simp only [lower, String.toList_map] at hlist
  exact absurd hlist (by decide)

theorem readTransparent_eq_ok {value : Option String} {transparent : Bool} :
    readTransparent value = .ok transparent ↔ Transparency value transparent := by
  cases value with
  | none => simp [readTransparent, Transparency, eq_comm]
  | some text =>
    simp only [readTransparent, Transparency, sameLetters, decide_eq_true_eq]
    have hne := lower_true_ne_lower_false
    by_cases htrue : lower text = lower "TRUE"
    · cases transparent with
      | false => simp [htrue, hne]
      | true => simp [htrue]
    · by_cases hfalse : lower text = lower "FALSE"
      · cases transparent with
        | false => simp [hfalse, hne.symm]
        | true => simp [hfalse, hne.symm]
      · cases transparent with
        | false => simp [htrue, hfalse]
        | true => simp [htrue, hfalse]

theorem readBoundingBox_eq_ok {text : String} {b : BoundingBox} :
    readBoundingBox text = .ok b ↔ BoundingBox.Written text b := by
  rw [readBoundingBox, mapError_eq_ok, BoundingBox.read_eq_ok]

theorem readTimes_eq_ok {now : Instant} {value : Option String} {times : List Instant} :
    readTimes now value = .ok times ↔ Times now value times := by
  cases value with
  | none => simp [readTimes, Times, eq_comm]
  | some text =>
    simp only [readTimes, Times]
    split
    · rename_i e hread
      simp [hread]
    · rename_i hread
      simp [hread, eq_comm]
    · rename_i specs hne hread
      rw [mapError_eq_ok, hread]
      apply Iff.intro
      · intro h
        exact ⟨specs, rfl, .inr ⟨hne, h⟩⟩
      · intro h'
        obtain ⟨_, hspecs, h⟩ := h'
        cases hspecs
        rcases h with ⟨hspecs, _⟩ | ⟨_, h⟩
        · exact absurd hspecs hne
        · exact h

theorem readOptional_eq_ok {α : Type} {read : String → Except RequestError α}
    {value : Option String} {o : Option α} :
    readOptional read value = .ok o ↔ Option.Rel (fun text a => read text = .ok a) value o := by
  cases value with
  | none =>
    cases o with
    | none => simp [readOptional]
    | some a => simp [readOptional]
  | some text =>
    rw [readOptional, map_eq_ok]
    cases o with
    | none => simp
    | some a => simp

theorem readInstant_eq_ok {text : String} {t : Instant} :
    readInstant text = .ok t ↔ Timestamp.read text = .ok t := by
  rw [readInstant, mapError_eq_ok]

theorem readInteger_eq_ok {name text : String} {n : Int} :
    readInteger name text = .ok n ↔ Whole text n := by
  unfold readInteger Whole
  cases int32 (trim text) with
  | none => simp
  | some m => simp

theorem readInterval_eq_ok {start stop : Option String} {interval : Option (Int × Int)} :
    readInterval start stop = .ok interval ↔ Ends start stop interval := by
  cases start with
  | none =>
    cases stop with
    | none => simp [readInterval, Ends, eq_comm]
    | some stopText => simp [readInterval, Ends]
  | some startText =>
    cases stop with
    | none => simp [readInterval, Ends]
    | some stopText =>
      simp only [readInterval, bind_eq_ok, pure_eq_ok, readInteger_eq_ok]
      apply Iff.intro
      · intro h'
        obtain ⟨a, ha, b, hb, rfl⟩ := h'
        exact .inr ⟨startText, stopText, a, b, rfl, rfl, ha, hb, rfl⟩
      · intro h'
        rcases h' with ⟨h, _⟩ | ⟨_, _, a, b, h₁, h₂, ha, hb, rfl⟩
        · cases h
        · cases h₁
          cases h₂
          exact ⟨a, ha, b, hb, rfl⟩

end Request

/-- The query that a request's parameters ask for, `current` being `now` in a list of times. -/
structure MapQuery.Reads (now : Instant) (p : Parameters MapParameter) (q : MapQuery) :
    Prop where
  layers : Paired (splitList ((p .layers).getD "")) (splitList ((p .styles).getD "")) q.layers
  version : Given (p .version) q.version
  crs : Given (p .crs) q.crs
  format : Given (p .format) q.format
  bboxText : Given (p .bbox) q.bboxText
  bbox : BoundingBox.Written q.bboxText q.bbox
  width : ∃ text, Given (p .width) text ∧ Size text q.width
  height : ∃ text, Given (p .height) text ∧ Size text q.height
  transparent : Transparency (p .transparent) q.transparent
  times : Times now (p .time) q.times
  reference :
    Option.Rel (fun text t => Timestamp.read text = .ok t) (p .referenceTime) q.reference
  elevation : Option.Rel Whole (p .elevation) q.elevation
  interval : Ends (p .intervalStart) (p .intervalEnd) q.interval

theorem MapQuery.read_eq_ok {now : Instant} {p : Parameters MapParameter} {q : MapQuery} :
    MapQuery.read now p = .ok q ↔ Reads now p q := by
  simp only [MapQuery.read, bind_eq_ok, pure_eq_ok, pairLayers_eq_ok, required_eq_ok,
    requiredDimension_eq_ok, readSize_eq_ok, readTransparent_eq_ok, readBoundingBox_eq_ok,
    readTimes_eq_ok, readOptional_eq_ok, readInstant_eq_ok, readInteger_eq_ok,
    readInterval_eq_ok]
  apply Iff.intro
  · rintro ⟨layers, hlayers, version, hversion, crs, hcrs, format, hformat,
      bboxText, htext, width, hwidth, height, hheight, transparent, htransparent, bbox, hbbox,
      times, htimes, reference, hreference, elevation, helevation, interval, hinterval, rfl⟩
    exact ⟨hlayers, hversion, hcrs, hformat, htext, hbbox, hwidth, hheight,
      htransparent, htimes, hreference, helevation, hinterval⟩
  · intro h
    exact ⟨_, h.layers, _, h.version, _, h.crs, _, h.format, _, h.bboxText, _,
      h.width, _, h.height, _, h.transparent, _, h.bbox, _, h.times, _, h.reference, _,
      h.elevation, _, h.interval, rfl⟩

end LayerAtlas
