import LayerAtlas.Proofs.MapAcceptance

namespace LayerAtlas

open Text Request Checks

namespace Request

def Missing (value : Option String) (cause e : RequestError) : Prop :=
  (∀ text, ¬ Given value text) ∧ e = cause

/-- No layers are named, or one without a name, or there are more or fewer styles than
layers. -/
def Unpaired (layers styles : List String) (e : RequestError) : Prop :=
  ((layers = [] ∨ "" ∈ layers) ∧ e = .missingLayers) ∨
    (layers ≠ [] ∧ "" ∉ layers ∧ styles ≠ [] ∧ styles.length ≠ layers.length ∧
      e = .layerStyleMismatch layers.length styles.length)

def NoSize (name : String) (value : Option String) (e : RequestError) : Prop :=
  Missing value (.missingDimensionValue name) e ∨ ∃ text, Given value text ∧
    (∀ n, ¬ Size text n) ∧
    e = .invalidParameter name ("'" ++ text ++ "' is not a positive integer")

def NoTransparency (value : Option String) (e : RequestError) : Prop :=
  ∃ text, value = some text ∧ (∀ transparent, ¬ Transparency value transparent) ∧
    e = .invalidParameter "TRANSPARENT" ("expected TRUE or FALSE, got '" ++ text ++ "'")

def NoRectangle (value : Option String) (e : RequestError) : Prop :=
  ∃ text, Given value text ∧ ∃ cause, BoundingBox.read text = .error cause ∧
    e = .invalidParameter "BBOX" cause.message

def NoTimes (now : Instant) (value : Option String) (e : RequestError) : Prop :=
  ∃ text, value = some text ∧ ∃ cause, (TimeSpec.readList text = .error cause ∨
    ∃ specs, TimeSpec.readList text = .ok specs ∧ specs ≠ [.current] ∧
      TimeSpec.expandAll now specs = .error cause) ∧ e = .ofTime cause

def NoInstant (value : Option String) (e : RequestError) : Prop :=
  ∃ text, value = some text ∧ ∃ cause, Timestamp.read text = .error cause ∧ e = .ofTime cause

def NotWhole (name : String) (value : Option String) (e : RequestError) : Prop :=
  ∃ text, value = some text ∧ (∀ n, ¬ Whole text n) ∧
    e = .invalidDimensionValue (name ++ " '" ++ text ++ "' is not an integer")

/-- Only one end of an interval is there, or one of them is no number, the first of the two
being reported. -/
def NoEnds (start stop : Option String) (e : RequestError) : Prop :=
  (start ≠ none ∧ stop = none ∧ e = .missingDimensionValue "DIM_INTERVAL_END") ∨
    (start = none ∧ stop ≠ none ∧ e = .missingDimensionValue "DIM_INTERVAL_START") ∨
    (stop ≠ none ∧ NotWhole "DIM_INTERVAL_START" start e) ∨
    ∃ text n, start = some text ∧ Whole text n ∧ NotWhole "DIM_INTERVAL_END" stop e

variable {value : Option String} {name text : String}

theorem pairLayers_fails (layers styles : Option String) :
    FailsBy (pairLayers layers styles)
      (Unpaired (splitList (layers.getD "")) (splitList (styles.getD ""))) := by
  intro e
  rw [pairLayers, Unpaired]
  generalize splitList (layers.getD "") = names
  generalize splitList (styles.getD "") = chosen
  by_cases hnames : names = [] ∨ "" ∈ names
  · have hnot : ¬ (names ≠ [] ∧ "" ∉ names) := fun h => hnames.elim h.1 h.2
    rw [if_pos hnames, and_iff_right hnames, or_iff_left (fun h => hnot ⟨h.1, h.2.1⟩),
      error_eq_error]
  · obtain ⟨hne, hempty⟩ := not_or.1 hnames
    rw [if_neg hnames, or_iff_right (fun h => hnames h.1), and_iff_right hne,
      and_iff_right hempty]
    cases chosen with
    | nil => simp
    | cons style rest =>
      rw [and_iff_right (List.cons_ne_nil style rest)]
      by_cases hlength : (style :: rest).length = names.length
      · simp [hlength]
      · rw [if_neg hlength, and_iff_right hlength, error_eq_error]

theorem required_fails (name : String) (value : Option String) :
    FailsBy (required name value) (Missing value (.missingParameter name)) := by
  apply failsBy_of_eq_ok fun _ => required_eq_ok
  intro e he
  rw [required] at he
  split at he
  · cases he
  · cases he
    rfl

theorem requiredDimension_fails (name : String) (value : Option String) :
    FailsBy (requiredDimension name value) (Missing value (.missingDimensionValue name)) := by
  apply failsBy_of_eq_ok fun _ => requiredDimension_eq_ok
  intro e he
  rw [requiredDimension] at he
  split at he
  · cases he
  · cases he
    rfl

theorem readSize_fails (name text : String) :
    FailsBy (readSize name text) fun e => (∀ n, ¬ Size text n) ∧
    e = .invalidParameter name ("'" ++ text ++ "' is not a positive integer") := by
  apply failsBy_of_eq_ok fun _ => readSize_eq_ok
  intro e he
  rw [readSize] at he
  split at he
  · cases he
  · cases he
    rfl

theorem size_fails (name : String) (value : Option String) :
    FailsBy (requiredDimension name value >>= readSize name) (NoSize name value) := by
  intro e
  simp only [bind_eq_error, requiredDimension_fails name value e, requiredDimension_eq_ok,
    readSize_fails name _ e]
  rfl

theorem readTransparent_fails (value : Option String) :
    FailsBy (readTransparent value) (NoTransparency value) := by
  have hfails :
    FailsBy (readTransparent value) fun e => (∀ transparent, ¬ Transparency value transparent) ∧
      e = .invalidParameter "TRANSPARENT"
      ("expected TRUE or FALSE, got '" ++ value.getD "" ++ "'") := by
    apply failsBy_of_eq_ok fun _ => readTransparent_eq_ok
    intro e he
    cases value with
    | none => cases he
    | some text =>
      rw [readTransparent] at he
      split_ifs at he
      cases he
      rfl
  intro e
  rw [hfails e, NoTransparency]
  cases value with
  | none => simp [Transparency]
  | some text => simp

theorem readBoundingBox_fails (h : Given value text) :
    FailsBy (readBoundingBox text) (NoRectangle value) := by
  intro e
  rw [readBoundingBox, mapError_eq_error, NoRectangle]
  apply Iff.intro
  · intro he
    exact ⟨text, h, he⟩
  · rintro ⟨text', h', he⟩
    cases h.1.symm.trans h'.1
    exact he

theorem readTimes_fails (now : Instant) (value : Option String) :
    FailsBy (readTimes now value) (NoTimes now value) := by
  intro e
  cases value with
  | none => simp [readTimes, NoTimes]
  | some text =>
    simp only [readTimes, NoTimes, Option.some.injEq, exists_eq_left']
    split
    · rename_i cause hread
      simp [hread, eq_comm]
    · rename_i hread
      simp [hread]
    · rename_i specs hne hread
      have hspecs : specs ≠ [.current] := hne
      simp [hread, mapError_eq_error, hspecs]

theorem readOptional_fails {α : Type} {read : String → Except RequestError α}
    {check : String → RequestError → Prop} (h : ∀ text, FailsBy (read text) (check text)) :
    FailsBy (readOptional read value) fun e => ∃ text, value = some text ∧ check text e := by
  intro e
  cases value with
  | none => simp [readOptional]
  | some text => simp [readOptional, map_eq_error, h text e]

theorem readInstant_fails (text : String) : FailsBy (readInstant text) fun e =>
    ∃ cause, Timestamp.read text = .error cause ∧ e = .ofTime cause := by
  intro e
  exact mapError_eq_error

theorem readInteger_fails (name text : String) :
    FailsBy (readInteger name text) fun e => (∀ n, ¬ Whole text n) ∧
    e = .invalidDimensionValue (name ++ " '" ++ text ++ "' is not an integer") := by
  apply failsBy_of_eq_ok fun _ => readInteger_eq_ok
  intro e he
  rw [readInteger] at he
  split at he
  · cases he
  · cases he
    rfl

theorem readInterval_fails (start stop : Option String) :
    FailsBy (readInterval start stop) (NoEnds start stop) := by
  intro e
  cases start with
  | none =>
    cases stop with
    | none => simp [readInterval, NoEnds, NotWhole]
    | some stopText => simp [readInterval, NoEnds, NotWhole, eq_comm]
  | some startText =>
    cases stop with
    | none => simp [readInterval, NoEnds, NotWhole, eq_comm]
    | some stopText =>
      simp only [readInterval, bind_eq_error, readInteger_fails _ _ e, readInteger_eq_ok,
        pure_ne_error]
      simp [NoEnds, NotWhole]

end Request

namespace MapQuery

/-- The checks of the parameters, in their order. -/
def readingChecks (now : Instant) (p : Parameters MapParameter) : List (RequestError → Prop) :=
  [
  Unpaired (splitList ((p .layers).getD "")) (splitList ((p .styles).getD "")),
  Missing (p .version) (.missingParameter "VERSION"),
  Missing (p .crs) (.missingParameter "CRS"),
  Missing (p .format) (.missingParameter "FORMAT"),
  Missing (p .bbox) (.missingDimensionValue "BBOX"),
  NoSize "WIDTH" (p .width),
  NoSize "HEIGHT" (p .height),
  NoTransparency (p .transparent),
  NoRectangle (p .bbox),
  NoTimes now (p .time),
  NoInstant (p .referenceTime),
  NotWhole "ELEVATION" (p .elevation),
  NoEnds (p .intervalStart) (p .intervalEnd)]

theorem read_fails (now : Instant) (p : Parameters MapParameter) :
    FailsBy (MapQuery.read now p) (FirstFault (readingChecks now p)) := by
  refine (pairLayers_fails _ _).cons fun layers _ => ?_
  refine (required_fails "VERSION" _).cons fun version _ => ?_
  refine (required_fails "CRS" _).cons fun crs _ => ?_
  refine (required_fails "FORMAT" _).cons fun format _ => ?_
  refine (requiredDimension_fails "BBOX" _).cons fun bboxText htext => ?_
  refine (size_fails "WIDTH" _).cons fun width _ => ?_
  refine (size_fails "HEIGHT" _).cons fun height _ => ?_
  refine (readTransparent_fails _).cons fun transparent _ => ?_
  refine (readBoundingBox_fails (requiredDimension_eq_ok.1 htext)).cons fun bbox _ => ?_
  refine (readTimes_fails now _).cons fun times _ => ?_
  refine (readOptional_fails readInstant_fails).cons fun reference _ => ?_
  refine (readOptional_fails (readInteger_fails "ELEVATION")).cons fun elevation _ => ?_
  refine (readInterval_fails _ _).cons fun interval _ => ?_
  exact failsBy_ok _

end MapQuery

/-- A check by which a request is refused. -/
def Refusal (check : RequestError → Prop) (f : Failure) : Prop := ∃ e, f = .refused e ∧ check e

theorem firstFault_map_refusal {cs : List (RequestError → Prop)} {f : Failure} :
    FirstFault (cs.map Refusal) f ↔ Refusal (FirstFault cs) f := by
  induction cs with
  | nil => simp [Refusal, firstFault_nil]
  | cons c cs ih =>
    have hnone : (∀ f', ¬ Refusal c f') ↔ ∀ e, ¬ c e := by
      apply Iff.intro
      · exact fun h e he => h _ ⟨e, rfl, he⟩
      · rintro h _ ⟨e, _, he⟩
        exact h e he
    rw [List.map_cons, firstFault_cons, ih, hnone]
    simp only [Refusal, firstFault_cons, and_or_left, exists_or]
    refine or_congr_right ?_
    simp only [← exists_and_left, and_left_comm]

namespace Request

theorem refusing_fails {α : Type} {x : Except RequestError α} {check : RequestError → Prop}
    (h : FailsBy x check) : FailsBy (refusing x) (Refusal check) := by
  intro f
  rw [refusing, mapError_eq_error]
  refine exists_congr fun e => ?_
  rw [h e, and_comm]

theorem refusing_fails_first {α : Type} {x : Except RequestError α}
    {cs : List (RequestError → Prop)} (h : FailsBy x (FirstFault cs)) :
    FailsBy (refusing x) (FirstFault (cs.map Refusal)) :=
  (refusing_fails h).congr fun _ => firstFault_map_refusal.symm

theorem ensure_fails (condition : Bool) (cause : RequestError) :
    FailsBy (ensure condition cause) fun e => ¬ condition = true ∧ e = cause := by
  intro e
  cases condition with
  | false => simp [ensure, eq_comm]
  | true => simp [ensure]

theorem ensureNone_some {α : Type} (a : α) (cause : α → RequestError) :
    ensureNone (some a) cause = .error (cause a) := rfl

theorem ensureNone_filter_fails {α : Type} (o : Option α) (accepts : α → Bool)
    (cause : α → RequestError) :
    FailsBy (ensureNone (o.filter fun a => !accepts a) cause) fun e =>
      ∃ a, o = some a ∧ ¬ accepts a = true ∧ e = cause a := by
  intro e
  cases o with
  | none => simp [ensureNone]
  | some a =>
    simp only [Option.some.injEq, exists_eq_left']
    cases h : accepts a with
    | false =>
      rw [Option.filter_some, h, Bool.not_false, if_pos rfl, ensureNone_some, error_eq_error]
      simp
    | true => simp [Option.filter_some, ensureNone, h]

theorem ensureNone_find?_fails {α : Type} (xs : List α) (accepts : α → Bool)
    (cause : α → RequestError) :
    FailsBy (ensureNone (xs.find? fun a => !accepts a) cause)
      (FirstFault (xs.map fun a e => ¬ accepts a = true ∧ e = cause a)) := by
  intro e
  induction xs with
  | nil => exact failsBy_ok () e
  | cons a xs ih =>
    rw [List.map_cons, firstFault_cons, List.find?_cons]
    cases h : accepts a with
    | false =>
      rw [Bool.not_false, ensureNone_some, error_eq_error]
      simp
    | true => simpa using ih

end Request

namespace MapQuery

def Faulty (g : Generation) (name : String) (fault : Layer → Failure → Prop) (f : Failure) :
    Prop :=
  ∃ l, g.find? name = some l ∧ fault l f

/-- A layer refuses a time, or the program stops over the question whether it does. -/
def NoTime (present : Instant) (q : MapQuery) (name : String) (t : Instant) (l : Layer)
    (f : Failure) : Prop :=
  (l.acceptsTime present q.reference t = some false ∧
      f = .refused (unavailable "Time" (showInstant t) name)) ∨
    (l.acceptsTime present q.reference t = none ∧ f = .stopped)

/-- The checks of one of the layers, in their order; of several times that it refuses, the first
is reported. -/
def layerChecks (g : Generation) (present : Instant) (q : MapQuery) (name style : String) :
    List (Failure → Prop) :=
  (Refusal fun e => g.find? name = none ∧ e = .layerNotFound name) ::
  (Faulty g name fun l => Refusal fun e =>
    ¬ l.acceptsStyle style ∧ e = .styleNotFound name style) ::
  (Faulty g name fun l => Refusal fun e => ¬ l.acceptsCrs q.crs ∧ e = .invalidCrs name q.crs) ::
  (Faulty g name fun l => Refusal fun e => ∃ r, q.reference = some r ∧ ¬ l.acceptsReference r ∧
    e = unavailable "Reference time" (showInstant r) name) ::
  (q.times.map fun t => Faulty g name (NoTime present q name t)) ++
  [Faulty g name fun l => Refusal fun e => ∃ v, q.elevation = some v ∧ ¬ l.acceptsElevation v ∧
    e = unavailable "Elevation" (showInt v) name]

def NoInterval (g : Generation) (q : MapQuery) (name : String) : Failure → Prop :=
  Faulty g name fun l => Refusal fun e => ∃ ends, q.interval = some ends ∧
    ¬ l.acceptsInterval ends.1 ends.2 ∧
    e = unavailable "Interval" (showInt ends.1 ++ "/" ++ showInt ends.2) l.name

def NoCurrent (g : Generation) (present : Instant) (q : MapQuery) (name : String) :
    Failure → Prop :=
  Faulty g name fun l f =>
    q.times = [] ∧ l.StopsAtCurrent present q.reference ∧ f = .stopped

def checks (s : Settings) (g : Generation) (present : Instant) (q : MapQuery) :
    List (Failure → Prop) :=
  (Refusal fun e => q.version ∉ s.versions ∧ e = .unsupportedVersion q.version) ::
  (q.layers.flatMap fun pair => q.layerChecks g present pair.1 pair.2) ++
  ((Refusal fun e => (¬ ∃ format ∈ s.mapFormats, sameLetters format q.format) ∧
    e = .unsupportedFormat q.format) ::
  (Refusal fun e => ¬ (q.bbox.minX < q.bbox.maxX ∧ q.bbox.minY < q.bbox.maxY) ∧
    e = .invalidBbox q.bboxText) ::
  (q.layers.map fun pair => q.NoInterval g pair.1) ++
  q.layers.map fun pair => q.NoCurrent g present pair.1)

variable {s : Settings} {g : Generation} {present : Instant} {q : MapQuery} {name : String}
  {l : Layer}

theorem faulty_iff (h : g.find? name = some l) {fault : Layer → Failure → Prop} {f : Failure} :
    Faulty g name fault f ↔ fault l f := by
  simp [Faulty, h]

theorem failsBy_faulty {α : Type} {x : Except Failure α} {fault : Layer → Failure → Prop}
    (hfind : g.find? name = some l) (h : FailsBy x (fault l)) :
    FailsBy x (Faulty g name fault) :=
  h.congr fun _ => (faulty_iff hfind).symm

theorem ensureTimes_fails (present : Instant) (q : MapQuery) (name : String) (l : Layer) :
    FailsBy (ensureTimes present q name l)
      (FirstFault (q.times.map fun t => NoTime present q name t l)) := by
  refine FailsBy.forM fun t _ f => ?_
  rw [NoTime]
  cases l.acceptsTime present q.reference t with
  | none =>
    change Except.error .stopped = .error f ↔ _
    rw [error_eq_error]
    simp
  | some accepted =>
    change refusing (ensure accepted _) = .error f ↔ _
    rw [refusing_fails (ensure_fails _ _) f, Refusal]
    simp [and_comm]

theorem findLayer_fails (g : Generation) (present : Instant) (q : MapQuery)
    (name style : String) :
    FailsBy (findLayer g present q name style)
      (FirstFault (q.layerChecks g present name style)) := by
  rw [findLayer, layerChecks]
  cases hfind : g.find? name with
  | none =>
    intro f
    have hmissing : Refusal (fun e => (none : Option Layer) = none ∧ e = .layerNotFound name)
        (.refused (.layerNotFound name)) := ⟨_, rfl, rfl, rfl⟩
    rw [List.cons_append, firstFault_cons, or_iff_left (fun h => h.1 _ hmissing),
      error_eq_error]
    simp [Refusal]
  | some l =>
    apply FailsBy.skip
    · rintro f ⟨e, _, hnone, _⟩
      cases hnone
    refine (failsBy_faulty hfind (refusing_fails (ensure_fails _ _))).cons fun _ _ => ?_
    refine (failsBy_faulty hfind (refusing_fails (ensure_fails _ _))).cons fun _ _ => ?_
    refine (failsBy_faulty hfind (refusing_fails (ensureNone_filter_fails _ _ _))).cons
      fun _ _ => ?_
    refine FailsBy.append ?_ fun _ _ => ?_
    · refine (ensureTimes_fails present q name l).congr fun f => ?_
      refine firstFault_map_congr (List.forall₂_same.2 fun t _ f => ?_)
      rw [faulty_iff hfind]
    refine (failsBy_faulty hfind (refusing_fails (ensureNone_filter_fails _ _ _))).cons
      fun _ _ => ?_
    exact failsBy_ok l

theorem ensureInterval_fails (q : MapQuery) {found : List Layer}
    (h : List.Forall₂ (fun pair l => g.find? pair.1 = some l) q.layers found) :
    FailsBy (refusing (ensureInterval q.interval found))
      (FirstFault (q.layers.map fun pair => q.NoInterval g pair.1)) := by
  simp only [ensureInterval]
  cases hinterval : q.interval with
  | none =>
    intro f
    refine iff_of_false (by rintro ⟨⟩) (not_firstFault ?_)
    intro c hc f' hf'
    obtain ⟨pair, _, rfl⟩ := List.mem_map.1 hc
    obtain ⟨l, _, _, _, ends, hends, _⟩ := hf'
    rw [hinterval] at hends
    cases hends
  | some ends =>
    refine (refusing_fails_first (ensureNone_find?_fails _ _ _)).congr fun f => ?_
    rw [List.map_map]
    refine firstFault_map_congr (h.flip.imp fun l pair hfind f => ?_)
    rw [NoInterval, faulty_iff hfind, hinterval]
    simp [Refusal]

theorem resolve_fails (present : Instant) (q : MapQuery) (style : String) (l : Layer) :
    FailsBy (MapRequest.resolve present q style l) fun f =>
      q.times = [] ∧ l.StopsAtCurrent present q.reference ∧ f = .stopped := by
  intro f
  change _ ↔ q.times = [] ∧ l.StopsAtCurrent present q.reference ∧ f = .stopped
  have hstops : q.drawn present style l = none ↔
      q.times = [] ∧ l.StopsAtCurrent present q.reference := drawn_eq_none_iff
  rw [← and_assoc, ← hstops, MapRequest.resolve_eq_answered]
  cases q.drawn present style l with
  | none => simp [answered, eq_comm]
  | some drawn => simp [answered]

theorem resolveAll_fails (present : Instant) (q : MapQuery) {found : List Layer}
    (h : List.Forall₂ (fun pair l => g.find? pair.1 = some l) q.layers found) :
    FailsBy ((q.layers.zip found).mapM fun x => MapRequest.resolve present q x.1.2 x.2)
      (FirstFault (q.layers.map fun pair => q.NoCurrent g present pair.1)) := by
  let check (x : (String × String) × Layer) (f : Failure) : Prop :=
    q.times = [] ∧ x.2.StopsAtCurrent present q.reference ∧ f = .stopped
  have hall : FailsBy ((q.layers.zip found).mapM fun x =>
      MapRequest.resolve present q x.1.2 x.2)
      (FirstFault ((q.layers.zip found).flatMap fun x => [check x])) :=
    FailsBy.mapM fun x _ => (resolve_fails present q x.1.2 x.2).congr fun _ =>
      (firstFault_singleton (c := check x)).symm
  refine hall.congr fun f => ?_
  rw [← List.map_eq_flatMap]
  refine firstFault_map_congr ((forall₂_zip_left h).imp ?_)
  rintro x pair ⟨rfl, hfind⟩ f
  rw [NoCurrent, faulty_iff hfind]

theorem ofQuery_fails (s : Settings) (g : Generation) (present : Instant) (q : MapQuery) :
    FailsBy (MapRequest.ofQuery s g present q) (FirstFault (q.checks s g present)) := by
  refine (refusing_fails ((ensure_fails _ _).congr ?_)).cons fun _ _ => ?_
  · intro e
    rw [Settings.supportsVersion_iff]
  have hfound := FailsBy.mapM fun (pair : String × String) (_ : pair ∈ q.layers) =>
    findLayer_fails g present q pair.1 pair.2
  refine hfound.append fun found hfound => ?_
  refine (refusing_fails ((ensure_fails _ _).congr ?_)).cons fun _ _ => ?_
  · intro e
    rw [Settings.supportsFormat_iff]
  refine (refusing_fails ((ensure_fails _ _).congr ?_)).cons fun _ _ => ?_
  · intro e
    rw [BoundingBox.isValid_iff]
  have hlayers : List.Forall₂ (fun pair l => g.find? pair.1 = some l) q.layers found :=
    (mapM_eq_ok.1 hfound).imp fun pair l hl => (findLayer_eq_ok.1 hl).1
  refine (ensureInterval_fails q hlayers).append fun _ _ => ?_
  rw [← List.append_nil (q.layers.map fun pair => q.NoCurrent g present pair.1)]
  exact (resolveAll_fails present q hlayers).append fun _ _ => failsBy_ok _

end MapQuery

/-- A map request fails at the first check that it does not pass: first those of the parameters
and then, where they ask for a query, those of the query. It is refused with the error of that
check, or the program stops over it. -/
theorem MapRequest.validate_eq_error_iff (s : Settings) (g : Generation) (now present : Instant)
    (p : Parameters MapParameter) (f : Failure) :
    validate s g now present p = .error f ↔
      FirstFault ((MapQuery.readingChecks now p).map Refusal) f ∨
      ∃ q, MapQuery.Reads now p q ∧
        FirstFault ((MapQuery.readingChecks now p).map Refusal ++ q.checks s g present) f := by
  have hread := refusing_fails_first (MapQuery.read_fails now p)
  rw [validate, bind_eq_error, hread f]
  refine or_congr_right (exists_congr fun q => ?_)
  rw [refusing_eq_ok, MapQuery.read_eq_ok]
  refine and_congr_right fun hreads => ?_
  have hnone := hread.not_of_ok (refusing_eq_ok.2 (MapQuery.read_eq_ok.2 hreads))
  rw [firstFault_append, or_iff_right (hnone f), and_iff_right hnone]
  exact MapQuery.ofQuery_fails s g present q f

end LayerAtlas
