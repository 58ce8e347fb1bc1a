import LayerAtlas.Proofs.LastInstants
import LayerAtlas.Proofs.MapReading

namespace LayerAtlas

open Text Request Checks

namespace Layer

variable {l : Layer} {a : TimeAxis} {d : TimeDimension} {present t : Instant}
  {reference : Option Instant}

/-- The times end at the present, and the step of a period that has begun has too many
seconds. -/
def StopsAtCurrent (l : Layer) (present : Instant) (reference : Option Instant) : Prop :=
  ∃ a d, l.timeAxis? = some a ∧ a.select reference = some d ∧ a.endsAtPresent = true ∧
    ¬ d.FitsBy (some present)

theorem acceptsTime_of_select (haxis : l.timeAxis? = some a)
    (hselect : a.select reference = some d) :
    l.acceptsTime present reference t = d.contains (a.limit present) t := by
  simp only [acceptsTime, haxis, TimeAxis.contains, hselect]

theorem lastTime?_of_select (haxis : l.timeAxis? = some a)
    (hselect : a.select reference = some d) :
    l.lastTime? present reference = d.last? (a.limit present) := by
  simp only [lastTime?, haxis, TimeAxis.last?, hselect]

theorem lastTime?_eq_none_iff :
    l.lastTime? present reference = none ↔ l.StopsAtCurrent present reference := by
  cases haxis : l.timeAxis? with
  | none => simp [lastTime?, StopsAtCurrent, haxis]
  | some a =>
    cases hselect : a.select reference with
    | none => simp [lastTime?, TimeAxis.last?, StopsAtCurrent, haxis, hselect]
    | some d =>
      rw [lastTime?_of_select haxis hselect, TimeDimension.last?_eq_none_iff, TimeAxis.limit]
      cases hends : a.endsAtPresent with
      | false => simp [StopsAtCurrent, haxis, hselect, hends]
      | true => simp [StopsAtCurrent, haxis, hselect, hends]

end Layer

/-- What a query asks of one of its layers, drawn in a style. -/
structure Layer.Offers (present : Instant) (q : MapQuery) (style : String) (l : Layer) :
    Prop where
  style : l.acceptsStyle style = true
  crs : l.acceptsCrs q.crs = true
  reference : ∀ r ∈ q.reference, l.acceptsReference r = true
  times : ∀ t ∈ q.times, l.acceptsTime present q.reference t = some true
  elevation : ∀ v ∈ q.elevation, l.acceptsElevation v = true
  interval : ∀ ends ∈ q.interval, l.acceptsInterval ends.1 ends.2 = true

/-- A query that can be answered from a generation. -/
structure MapQuery.Servable (s : Settings) (g : Generation) (present : Instant) (q : MapQuery) :
    Prop where
  version : q.version ∈ s.versions
  format : ∃ format ∈ s.mapFormats, sameLetters format q.format = true
  bbox : q.bbox.minX < q.bbox.maxX ∧ q.bbox.minY < q.bbox.maxY
  layers : ∀ pair ∈ q.layers, ∃ l, g.find? pair.1 = some l ∧ l.Offers present q pair.2

/-- The program can tell the current times that it is asked for. -/
def MapQuery.Tells (g : Generation) (present : Instant) (q : MapQuery) : Prop :=
  q.times = [] → ∀ pair ∈ q.layers, ∀ l, g.find? pair.1 = some l →
    ¬ l.StopsAtCurrent present q.reference

theorem MapQuery.Tells.of_times {g : Generation} {present : Instant} {q : MapQuery}
    (h : q.times ≠ []) : q.Tells g present :=
  fun htimes => absurd htimes h

def MapQuery.current? (present : Instant) (q : MapQuery) (l : Layer) :
    Answer (Option Instant) :=
  if q.times = [] then l.lastTime? present q.reference else some none

def MapQuery.drawn (present : Instant) (q : MapQuery) (style : String) (l : Layer) :
    Answer MapLayer :=
  (q.current? present l).map fun current =>
    { layer := l, style := if style = "" then "default" else style, current }

/-- The answer to a query: its layers in their order, each as it is published, and the rest as
asked. -/
structure MapQuery.Answer (g : Generation) (present : Instant) (q : MapQuery) (r : MapRequest) :
    Prop where
  layers : List.Forall₂ (fun pair drawn => ∃ l, g.find? pair.1 = some l ∧
    q.drawn present pair.2 l = some drawn) q.layers r.layers
  version : r.version = q.version
  crs : r.crs = q.crs
  bbox : r.bbox = q.bbox
  width : r.width = q.width
  height : r.height = q.height
  format : r.format = q.format
  transparent : r.transparent = q.transparent
  times : r.times = q.times
  reference : r.reference = q.reference
  elevation : r.elevation = q.elevation
  interval : r.interval = q.interval

theorem MapQuery.Answer.unique {g : Generation} {present : Instant} {q : MapQuery}
    {r r' : MapRequest} (h : q.Answer g present r) (h' : q.Answer g present r') : r = r' := by
  have hlayers : r.layers = r'.layers := by
    refine List.right_unique_forall₂' ?_ h.layers h'.layers
    rintro pair drawn drawn' ⟨l, hl, hdrawn⟩ ⟨l', hl', hdrawn'⟩
    cases hl.symm.trans hl'
    exact Option.some.inj (hdrawn.symm.trans hdrawn')
  cases r
  cases r'
  simp only [MapRequest.mk.injEq]
  exact ⟨h.version.trans h'.version.symm, hlayers, h.crs.trans h'.crs.symm,
    h.bbox.trans h'.bbox.symm, h.width.trans h'.width.symm, h.height.trans h'.height.symm,
    h.format.trans h'.format.symm, h.transparent.trans h'.transparent.symm,
    h.times.trans h'.times.symm, h.reference.trans h'.reference.symm,
    h.elevation.trans h'.elevation.symm, h.interval.trans h'.interval.symm⟩

namespace Request

theorem ensure_eq_ok {condition : Bool} {e : RequestError} {u : Unit} :
    ensure condition e = .ok u ↔ condition = true := by
  cases condition with
  | false => simp [ensure]
  | true => simp [ensure]

theorem ensureNone_eq_ok {α : Type} {wrong : Option α} {e : α → RequestError} {u : Unit} :
    ensureNone wrong e = .ok u ↔ wrong = none := by
  cases wrong with
  | none => simp [ensureNone]
  | some a => simp [ensureNone]

theorem refusing_eq_ok {α : Type} {check : Except RequestError α} {a : α} :
    refusing check = .ok a ↔ check = .ok a := mapError_eq_ok

theorem answered_eq_ok {α : Type} {answer : Answer α} {a : α} :
    answered answer = .ok a ↔ answer = some a := by
  cases answer with
  | none => simp [answered]
  | some b => simp [answered]

theorem answered_eq_stopped_iff {α : Type} {answer : Answer α} :
    answered answer = .error .stopped ↔ answer = none := by
  cases answer with
  | none => simp [answered]
  | some b => simp [answered]

theorem answered_ne_refused {α : Type} {answer : Answer α} {e : RequestError} :
    answered answer ≠ .error (.refused e) := by
  cases answer with
  | none => simp [answered]
  | some b => simp [answered]

theorem mapM_answered {α β : Type} {f : α → Answer β} {xs : List α} :
    (xs.mapM fun x => answered (f x)) = answered (xs.mapM f) := by
  induction xs with
  | nil => rfl
  | cons x xs ih =>
    rw [List.mapM_cons, List.mapM_cons, ih]
    cases f x with
    | none => rfl
    | some y =>
      cases xs.mapM f with
      | none => rfl
      | some ys => rfl

theorem ensureTimes_eq_ok {present : Instant} {q : MapQuery} {name : String}
    {l : Layer} {u : Unit} :
    ensureTimes present q name l = .ok u ↔
      ∀ t ∈ q.times, l.acceptsTime present q.reference t = some true := by
  rw [ensureTimes, forM_eq_ok]
  refine forall₂_congr fun t _ => ?_
  simp only [bind_eq_ok, answered_eq_ok, refusing_eq_ok, ensure_eq_ok, exists_eq_right]

theorem findLayer_eq_ok {g : Generation} {present : Instant} {q : MapQuery}
    {name style : String} {l : Layer} :
    findLayer g present q name style = .ok l ↔ g.find? name = some l ∧
      l.acceptsStyle style = true ∧ l.acceptsCrs q.crs = true ∧
      (∀ r ∈ q.reference, l.acceptsReference r = true) ∧
      (∀ t ∈ q.times, l.acceptsTime present q.reference t = some true) ∧
      ∀ v ∈ q.elevation, l.acceptsElevation v = true := by
  rw [findLayer]
  cases g.find? name with
  | none => simp
  | some found =>
    simp only [bind_eq_ok, refusing_eq_ok, ensure_eq_ok, ensureNone_eq_ok, ensureTimes_eq_ok,
      pure_eq_ok, exists_const, Option.some.injEq, filter_not_eq_none]
    apply Iff.intro
    · intro h
      obtain ⟨hstyle, hcrs, hreference, htimes, helevation, rfl⟩ := h
      exact ⟨rfl, hstyle, hcrs, hreference, htimes, helevation⟩
    · intro h
      obtain ⟨rfl, hstyle, hcrs, hreference, htimes, helevation⟩ := h
      exact ⟨hstyle, hcrs, hreference, htimes, helevation, rfl⟩

theorem ensureInterval_eq_ok {interval : Option (Int × Int)} {layers : List Layer} {u : Unit} :
    ensureInterval interval layers = .ok u ↔
      ∀ ends ∈ interval, ∀ l ∈ layers, l.acceptsInterval ends.1 ends.2 = true := by
  simp only [ensureInterval]
  cases interval with
  | none => simp
  | some ends =>
    simp only [ensureNone_eq_ok, find?_not_eq_none, Option.mem_def,
      Option.some.injEq, forall_eq']

end Request

theorem TimeAxis.hasCurrent_eq_true (a : TimeAxis) : a.hasCurrent = true := by
  rw [hasCurrent]
  split
  · rfl
  · rename_i hne _
    simpa using hne

theorem Layer.hasCurrent_eq_true (l : Layer) : l.hasCurrent = true := by
  rw [hasCurrent]
  cases l.timeAxis? with
  | none => rfl
  | some a => exact a.hasCurrent_eq_true

theorem Layer.currentTime_eq_answered (l : Layer) (present : Instant)
    (reference : Option Instant) :
    l.currentTime present reference = answered (l.lastTime? present reference) := by
  rw [currentTime, lastTime?, isTemporal]
  cases h : l.timeAxis? with
  | none => simp [answered]
  | some a => simp [l.hasCurrent_eq_true]

theorem MapRequest.resolve_eq_answered (present : Instant) (q : MapQuery)
    (style : String) (l : Layer) :
    resolve present q style l = answered (q.drawn present style l) := by
  rw [resolve, MapQuery.drawn, MapQuery.current?]
  by_cases htimes : q.times = []
  · simp only [htimes, if_true, l.currentTime_eq_answered]
    cases l.lastTime? present q.reference with
    | none => rfl
    | some current => rfl
  · simp only [htimes, if_false]
    rfl

theorem MapQuery.drawn_eq_some_iff {present : Instant} {q : MapQuery}
    {style : String} {l : Layer} {drawn : MapLayer} :
    q.drawn present style l = some drawn ↔ drawn.layer = l ∧
      drawn.style = (if style = "" then "default" else style) ∧
      q.current? present l = some drawn.current := by
  rw [MapQuery.drawn, Option.map_eq_some_iff]
  apply Iff.intro
  · rintro ⟨current, hcurrent, rfl⟩
    exact ⟨rfl, rfl, hcurrent⟩
  · obtain ⟨layer, style', current⟩ := drawn
    rintro ⟨rfl, rfl, hcurrent⟩
    exact ⟨current, hcurrent, rfl⟩

theorem MapQuery.drawn_eq_none_iff {present : Instant} {q : MapQuery}
    {style : String} {l : Layer} :
    q.drawn present style l = none ↔ q.times = [] ∧ l.StopsAtCurrent present q.reference := by
  rw [drawn, Option.map_eq_none_iff, current?]
  split
  · rename_i htimes
    rw [Layer.lastTime?_eq_none_iff, and_iff_right htimes]
  · rename_i htimes
    exact iff_of_false (Option.some_ne_none _) fun h => htimes h.1

theorem MapQuery.tells_iff {g : Generation} {present : Instant} {q : MapQuery} :
    q.Tells g present ↔ ∀ pair ∈ q.layers, ∀ l, g.find? pair.1 = some l →
      q.drawn present pair.2 l ≠ none := by
  simp only [ne_eq, MapQuery.drawn_eq_none_iff, not_and, Tells]
  exact ⟨fun h pair hpair l hl htimes => h htimes pair hpair l hl,
    fun h htimes pair hpair l hl => h pair hpair l hl htimes⟩

namespace MapRequest

def answering (q : MapQuery) (layers : List MapLayer) : MapRequest where
  version := q.version
  layers := layers
  crs := q.crs
  bbox := q.bbox
  width := q.width
  height := q.height
  format := q.format
  transparent := q.transparent
  times := q.times
  reference := q.reference
  elevation := q.elevation
  interval := q.interval

theorem ofQuery_eq_ok {s : Settings} {g : Generation} {present : Instant} {q : MapQuery}
    {r : MapRequest} :
    ofQuery s g present q = .ok r ↔ s.supportsVersion q.version = true ∧
      ∃ found, List.Forall₂ (fun pair l => findLayer g present q pair.1 pair.2 = .ok l)
        q.layers found ∧
        s.supportsFormat q.format = true ∧ q.bbox.isValid = true ∧
        (∀ ends ∈ q.interval, ∀ l ∈ found, l.acceptsInterval ends.1 ends.2 = true) ∧
        ∃ layers, List.Forall₂ (fun x drawn => q.drawn present x.1.2 x.2 = some drawn)
          (q.layers.zip found) layers ∧ answering q layers = r := by
  simp only [ofQuery, bind_eq_ok, ensureVersion, ensureFormat, refusing_eq_ok, ensure_eq_ok,
    exists_const, mapM_eq_ok, ensureInterval_eq_ok, resolve_eq_answered,
    answered_eq_ok, pure_eq_ok]
  rfl

theorem answering_answer {g : Generation} {present : Instant} {q : MapQuery}
    {found : List Layer} {layers : List MapLayer}
    (hfound : List.Forall₂ (fun pair l => g.find? pair.1 = some l) q.layers found)
    (hdrawn : List.Forall₂ (fun x drawn => q.drawn present x.1.2 x.2 = some drawn)
      (q.layers.zip found) layers) : q.Answer g present (answering q layers) where
  layers := forall₂_of_zip hfound hdrawn fun _ l _ hl hdrawn => ⟨l, hl, hdrawn⟩
  version := rfl
  crs := rfl
  bbox := rfl
  width := rfl
  height := rfl
  format := rfl
  transparent := rfl
  times := rfl
  reference := rfl
  elevation := rfl
  interval := rfl

end MapRequest

theorem Settings.supportsVersion_iff {s : Settings} {version : String} :
    s.supportsVersion version = true ↔ version ∈ s.versions := by
  simp [supportsVersion]

theorem Settings.supportsFormat_iff {s : Settings} {format : String} :
    s.supportsFormat format = true ↔ ∃ f ∈ s.mapFormats, sameLetters f format = true := by
  simp [supportsFormat]

namespace MapQuery

theorem servable_of_ofQuery {s : Settings} {g : Generation} {present : Instant} {q : MapQuery}
    {r : MapRequest} (h : MapRequest.ofQuery s g present q = .ok r) :
    q.Servable s g present ∧ q.Answer g present r := by
  obtain ⟨hversion, found, hfound, hformat, hbbox, hinterval, layers, hdrawn, rfl⟩ :=
    MapRequest.ofQuery_eq_ok.1 h
  refine ⟨?_,
    MapRequest.answering_answer (hfound.imp fun _ _ hl => (findLayer_eq_ok.1 hl).1) hdrawn⟩
  refine ⟨Settings.supportsVersion_iff.1 hversion, Settings.supportsFormat_iff.1 hformat,
    BoundingBox.isValid_iff.1 hbbox, ?_⟩
  intro pair hpair
  obtain ⟨l, hmem, hl⟩ := forall₂_exists hfound hpair
  obtain ⟨hfind, hstyle, hcrs, hreference, htimes, helevation⟩ := findLayer_eq_ok.1 hl
  exact ⟨l, hfind, hstyle, hcrs, hreference, htimes, helevation, fun ends hends =>
    hinterval ends hends l hmem⟩

theorem Answer.tells {g : Generation} {present : Instant} {q : MapQuery} {r : MapRequest}
    (h : q.Answer g present r) : q.Tells g present := by
  rw [tells_iff]
  intro pair hpair l hl
  obtain ⟨drawn, _, l', hl', hdrawn⟩ := forall₂_exists h.layers hpair
  cases hl.symm.trans hl'
  rw [hdrawn]
  exact Option.some_ne_none drawn

theorem Servable.exists_found {s : Settings} {g : Generation} {present : Instant} {q : MapQuery}
    (h : q.Servable s g present) : ∃ found,
      List.Forall₂ (fun pair l => g.find? pair.1 = some l) q.layers found ∧
      MapRequest.ofQuery s g present q =
        (answered ((q.layers.zip found).mapM fun x => q.drawn present x.1.2 x.2)).map
          (MapRequest.answering q) := by
  obtain ⟨found, hfound⟩ := exists_forall₂ h.layers
  refine ⟨found, hfound.imp fun _ _ hl => hl.1, ?_⟩
  have hversion : refusing (ensureVersion s q.version) = .ok () :=
    refusing_eq_ok.2 (ensure_eq_ok.2 (Settings.supportsVersion_iff.2 h.version))
  have hlayers :
      (q.layers.mapM fun pair => findLayer g present q pair.1 pair.2) = .ok found := by
    refine mapM_eq_ok.2 (hfound.imp ?_)
    rintro pair l ⟨hfind, hoffers⟩
    exact findLayer_eq_ok.2 ⟨hfind, hoffers.style, hoffers.crs, hoffers.reference,
      hoffers.times, hoffers.elevation⟩
  have hformat : refusing (ensureFormat s q.format) = .ok () :=
    refusing_eq_ok.2 (ensure_eq_ok.2 (Settings.supportsFormat_iff.2 h.format))
  have hbbox : refusing (ensure q.bbox.isValid (.invalidBbox q.bboxText)) = .ok () :=
    refusing_eq_ok.2 (ensure_eq_ok.2 (BoundingBox.isValid_iff.2 h.bbox))
  have hinterval : refusing (ensureInterval q.interval found) = .ok () := by
    refine refusing_eq_ok.2 (ensureInterval_eq_ok.2 fun ends hends l hl => ?_)
    obtain ⟨pair, _, _, hoffers⟩ := forall₂_exists hfound.flip hl
    exact hoffers.interval ends hends
  rw [MapRequest.ofQuery, hversion, ok_bind]
  change (q.layers.mapM fun pair => findLayer g present q pair.1 pair.2) >>= _ = _
  simp only [hlayers, hformat, hbbox, hinterval, ok_bind, MapRequest.resolve_eq_answered]
  rw [mapM_answered]
  cases (q.layers.zip found).mapM fun x => q.drawn present x.1.2 x.2 with
  | none => rfl
  | some layers => rfl

theorem Servable.ofQuery_cases {s : Settings} {g : Generation} {present : Instant}
    {q : MapQuery} (h : q.Servable s g present) :
    (q.Tells g present ∧ ∃ r, MapRequest.ofQuery s g present q = .ok r) ∨
      ¬ q.Tells g present ∧ MapRequest.ofQuery s g present q = .error .stopped := by
  obtain ⟨found, hfound, hquery⟩ := h.exists_found
  rw [hquery]
  obtain ⟨layers, hdrawn, heq⟩ | ⟨⟨x, hx, hnone⟩, heq⟩ := LayerAtlas.Answer.mapM_cases
    (fun x : (String × String) × Layer => q.drawn present x.1.2 x.2) (q.layers.zip found)
  · rw [heq]
    exact .inl ⟨(MapRequest.answering_answer hfound hdrawn).tells, _, rfl⟩
  · rw [heq]
    refine .inr ⟨?_, rfl⟩
    intro htells
    exact tells_iff.1 htells x.1 (List.of_mem_zip hx).1 x.2 (List.forall₂_zip hfound hx) hnone

theorem Servable.ofQuery {s : Settings} {g : Generation} {present : Instant} {q : MapQuery}
    (h : q.Servable s g present) (htells : q.Tells g present) :
    ∃ r, MapRequest.ofQuery s g present q = .ok r := by
  obtain ⟨_, hr⟩ | ⟨hnot, _⟩ := h.ofQuery_cases
  · exact hr
  · exact absurd htells hnot

end MapQuery

namespace MapRequest

variable {s : Settings} {g : Generation} {now present : Instant} {p : Parameters MapParameter}
  {q : MapQuery}
  {r : MapRequest}

theorem validate_eq_ok : validate s g now present p = .ok r ↔
    ∃ q, MapQuery.Reads now p q ∧ ofQuery s g present q = .ok r := by
  rw [validate, bind_eq_ok]
  simp only [refusing_eq_ok, MapQuery.read_eq_ok]

theorem exists_query (h : validate s g now present p = .ok r) :
    ∃ q, MapQuery.Reads now p q ∧ q.Servable s g present ∧ q.Answer g present r := by
  obtain ⟨q, hreads, hq⟩ := validate_eq_ok.1 h
  exact ⟨q, hreads, MapQuery.servable_of_ofQuery hq⟩

theorem validate_of_answer (hreads : MapQuery.Reads now p q)
    (hservable : q.Servable s g present) (hanswer : q.Answer g present r) :
    validate s g now present p = .ok r := by
  obtain ⟨r', hr'⟩ := hservable.ofQuery hanswer.tells
  rw [hanswer.unique (MapQuery.servable_of_ofQuery hr').2]
  exact validate_eq_ok.2 ⟨q, hreads, hr'⟩

theorem validate_eq_stopped (hreads : MapQuery.Reads now p q)
    (hservable : q.Servable s g present) (hnot : ¬ q.Tells g present) :
    validate s g now present p = .error .stopped := by
  obtain ⟨htells, _⟩ | ⟨_, hstopped⟩ := hservable.ofQuery_cases
  · exact absurd htells hnot
  · rw [validate, refusing_eq_ok.2 (MapQuery.read_eq_ok.2 hreads), ok_bind, hstopped]

end MapRequest

end LayerAtlas
