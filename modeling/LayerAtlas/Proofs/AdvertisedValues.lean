import LayerAtlas.Proofs.AdvertisedTimes

namespace LayerAtlas

open Request Checks Text

namespace Request

variable {ns : List Int} {n : Int} {k : Nat}

def decodeExtent (extent : String) : List (Option Int) :=
  (commaParts extent).map fun part => int32 (trim part)

theorem getElem?_of_decodeExtent (hne : ns ≠ [])
    (h : (decodeExtent (String.intercalate "," (ns.map showInt)))[k]? = some (some n)) :
    ns[k]? = some n := by
  rw [decodeExtent, commaParts_map_showInt hne, List.map_map, List.getElem?_map] at h
  obtain ⟨m, hm, hwhole⟩ := Option.map_eq_some_iff.1 h
  have hsame : n = m := (whole_showInt_iff.1 hwhole).2
  rw [hm, hsame]

theorem mem_of_decodeExtent (hne : ns ≠ [])
    (h : some n ∈ decodeExtent (String.intercalate "," (ns.map showInt))) :
    n ∈ ns := by
  obtain ⟨k, hk⟩ := List.mem_iff_getElem?.1 h
  exact List.mem_of_getElem? (getElem?_of_decodeExtent hne hk)

end Request

/-- Parameters that ask for a layer with values from what is published about it, and for no
times. -/
structure LayerSummary.Asks (summary : LayerSummary) (p : Parameters MapParameter) : Prop where
  layers : p .layers = some summary.name
  styles : ∀ style, p .styles = some style → style ∈ summary.styles ∧ IsElement style
  crs : ∃ crs ∈ summary.crs, Given (p .crs) crs
  time : p .time = none
  reference : p .referenceTime = none
  elevation : p .elevation = none ∨ ∃ e text n, summary.elevation = some e ∧
    some n ∈ decodeExtent e.extent ∧
    p .elevation = some text ∧ Whole text n
  interval :
    (p .intervalStart = none ∧ p .intervalEnd = none) ∨
    ∃ (i : IntervalSummary) (k : Nat) (a b : Int),
    summary.interval = some i ∧ (decodeExtent i.start)[k]? = some (some a) ∧
    (decodeExtent i.stop)[k]? = some (some b) ∧
    Ends (p .intervalStart) (p .intervalEnd) (some (a, b))

/-- Parameters with a version, a format and an area that the service can draw, whatever the
layer. -/
structure Settings.CanDraw (s : Settings) (p : Parameters MapParameter) : Prop where
  version : ∃ version, p .version = some version ∧ s.supportsVersion version = true
  format : ∃ format, p .format = some format ∧ s.supportsFormat format = true
  bbox : ∃ text b, Given (p .bbox) text ∧ BoundingBox.Written text b ∧ b.minX < b.maxX ∧
    b.minY < b.maxY
  width : ∃ text n, Given (p .width) text ∧ Size text n
  height : ∃ text n, Given (p .height) text ∧ Size text n
  transparent : ∃ transparent, Transparency (p .transparent) transparent

namespace Layer

variable {l : Layer} {name style : String} {n : Int}

theorem acceptsStyle_of_mem (h : style ∈ (LayerSummary.ofLayer l).styles) :
    l.acceptsStyle style = true := by
  obtain ⟨s, hs, rfl⟩ := List.mem_map.1 h
  have hany : l.styles.any (fun t => t.name = s.name) = true :=
    List.any_eq_true.2 ⟨s, hs, decide_eq_true rfl⟩
  rw [acceptsStyle, hany, Bool.or_true]

theorem acceptsCrs_of_mem (hnormal : l.crs.IsNormal) {crs : String}
    (h : crs ∈ (LayerSummary.ofLayer l).crs) :
    l.acceptsCrs crs = true := by
  rw [acceptsCrs, CrsSet.contains, hnormal crs h]
  exact List.elem_eq_true_of_mem h

theorem acceptsElevation_of_mem {e : ElevationSummary}
    (h : (LayerSummary.ofLayer l).elevation = some e) (hn : some n ∈ decodeExtent e.extent) :
    l.acceptsElevation n = true := by
  obtain ⟨elevation, helevation, rfl⟩ := Option.map_eq_some_iff.1 h
  have hmem : n ∈ elevation.values := mem_of_decodeExtent elevation.nonempty hn
  rw [acceptsElevation, helevation]
  exact List.elem_eq_true_of_mem hmem

theorem acceptsInterval_of_getElem? {i : IntervalSummary} {k : Nat} {a b : Int}
    (h : (LayerSummary.ofLayer l).interval = some i)
    (ha : (decodeExtent i.start)[k]? = some (some a))
    (hb : (decodeExtent i.stop)[k]? = some (some b)) : l.acceptsInterval a b = true := by
  obtain ⟨pairs, hpairs, rfl⟩ := Option.map_eq_some_iff.1 h
  have hne : ∀ f : IntervalPair → Int, pairs.items.map f ≠ [] :=
    fun f => List.map_eq_nil_iff.not.2 pairs.nonempty
  have hfield : ∀ f : IntervalPair → Int,
      String.intercalate "," (pairs.items.map fun pair => showInt (f pair)) =
        String.intercalate "," ((pairs.items.map f).map showInt) := by
    intro f
    rw [List.map_map]
    rfl
  change (decodeExtent pairs.startExtent)[k]? = _ at ha
  change (decodeExtent pairs.stopExtent)[k]? = _ at hb
  rw [IntervalPairs.startExtent, hfield] at ha
  rw [IntervalPairs.stopExtent, hfield] at hb
  have hstart := getElem?_of_decodeExtent (hne _) ha
  have hstop := getElem?_of_decodeExtent (hne _) hb
  rw [List.getElem?_map] at hstart hstop
  -- one position is that of one pair
  obtain ⟨pair, hpair, rfl⟩ := Option.map_eq_some_iff.1 hstart
  rw [hpair] at hstop
  cases hstop
  have hany : pairs.contains pair.start pair.stop = true :=
    List.any_eq_true.2 ⟨pair, List.mem_of_getElem? hpair, by simp⟩
  rw [acceptsInterval, hpairs]
  exact hany

end Layer

theorem Request.given_of_ne_none {value : Option String} {text : String}
    (h : given value ≠ none) (htext : value = some text) : Given value text := by
  obtain ⟨v, hv⟩ := Option.ne_none_iff_exists'.1 h
  have hgiven : Given value v := given_eq_some.1 hv
  have hsame : text = v := Option.some.inj (htext.symm.trans hgiven.1)
  rw [hsame]
  exact hgiven

theorem Request.paired_single {name style : String} (hname : IsElement name) (hne : name ≠ "")
    (hstyle : style = "" ∨ IsElement style) :
    Paired (splitList name) (splitList style) [(name, style)] := by
  have hlist : splitList name = [name] := splitList_of_isElement hname hne
  rw [hlist]
  refine ⟨List.cons_ne_nil _ _, ?_, ?_⟩
  · intro hempty
    exact hne (List.mem_singleton.1 hempty).symm
  · by_cases hblank : style = ""
    · rw [hblank]
      exact .inl ⟨rfl, rfl⟩
    · rw [splitList_of_isElement (hstyle.resolve_left hblank) hblank]
      exact .inr ⟨List.cons_ne_nil _ _, rfl, rfl⟩

namespace LayerSummary.Asks

variable {l : Layer} {p : Parameters MapParameter}

theorem exists_elevation (h : (ofLayer l).Asks p) :
    ∃ elevation, Option.Rel Whole (p .elevation) elevation ∧
      ∀ n ∈ elevation, l.acceptsElevation n = true := by
  obtain hnone | ⟨e, text, n, he, hn, htext, hwhole⟩ := h.elevation
  · refine ⟨none, ?_, by rintro n ⟨⟩⟩
    rw [hnone]
    exact .none
  · refine ⟨some n, ?_, ?_⟩
    · rw [htext]
      exact .some hwhole
    · rintro _ ⟨⟩
      exact Layer.acceptsElevation_of_mem he hn

theorem exists_interval (h : (ofLayer l).Asks p) :
    ∃ interval, Ends (p .intervalStart) (p .intervalEnd) interval ∧
      ∀ ends ∈ interval, l.acceptsInterval ends.1 ends.2 = true := by
  obtain ⟨hstart, hstop⟩ | ⟨i, k, a, b, hi, ha, hb, hends⟩ := h.interval
  · exact ⟨none, .inl ⟨hstart, hstop, rfl⟩, by rintro ends ⟨⟩⟩
  · refine ⟨some (a, b), hends, ?_⟩
    rintro _ ⟨⟩
    exact Layer.acceptsInterval_of_getElem? hi ha hb

theorem exists_style (h : (ofLayer l).Asks p) (hname : IsElement l.name) (hne : l.name ≠ "") :
    ∃ style, Paired (splitList ((p .layers).getD "")) (splitList ((p .styles).getD ""))
      [(l.name, style)] ∧
      l.acceptsStyle style = true := by
  have hlayers : (p .layers).getD "" = l.name := by
    rw [h.layers]
    rfl
  rw [hlayers]
  cases hstyle : p .styles with
  | none => exact ⟨"", paired_single hname hne (.inl rfl), rfl⟩
  | some style =>
    obtain ⟨hmem, helement⟩ := h.styles style hstyle
    exact ⟨style, paired_single hname hne (.inr helement), Layer.acceptsStyle_of_mem hmem⟩

theorem exists_query {s : Settings} {present : Instant} (h : (ofLayer l).Asks p)
    (hwellFormed : l.WellFormed) (hname : IsElement l.name) (hne : l.name ≠ "")
    (hdraw : s.CanDraw p) (hversion : given (p .version) ≠ none)
    (hformat : given (p .format) ≠ none) (now : Instant) :
    ∃ q style, MapQuery.Reads now p q ∧ q.layers = [(l.name, style)] ∧
      s.supportsVersion q.version = true ∧ s.supportsFormat q.format = true ∧
      q.bbox.isValid = true ∧ q.reference = none ∧ l.Offers present q style := by
  obtain ⟨style, hpaired, hstyle⟩ := h.exists_style hname hne
  obtain ⟨crs, hcrs, hcrsGiven⟩ := h.crs
  obtain ⟨elevation, helevation, haccepts⟩ := h.exists_elevation
  obtain ⟨interval, hinterval, hpair⟩ := h.exists_interval
  obtain ⟨version, hversionText, hsupported⟩ := hdraw.version
  obtain ⟨format, hformatText, hformats⟩ := hdraw.format
  obtain ⟨text, b, htext, hwritten, hvalid⟩ := hdraw.bbox
  obtain ⟨widthText, width, hwidth, hwidthSize⟩ := hdraw.width
  obtain ⟨heightText, height, hheight, hheightSize⟩ := hdraw.height
  obtain ⟨transparent, htransparent⟩ := hdraw.transparent
  let q : MapQuery := {
    layers := [(l.name, style)], version, crs, format, bboxText := text, bbox := b
    width, height, transparent, times := [], reference := none, elevation, interval }
  refine ⟨q, style, ?_, rfl, hsupported, hformats, BoundingBox.isValid_iff.2 hvalid, rfl, ?_⟩
  · constructor
    case layers => exact hpaired
    case version => exact given_of_ne_none hversion hversionText
    case crs => exact hcrsGiven
    case format => exact given_of_ne_none hformat hformatText
    case bboxText => exact htext
    case bbox => exact hwritten
    case width => exact ⟨widthText, hwidth, hwidthSize⟩
    case height => exact ⟨heightText, hheight, hheightSize⟩
    case transparent => exact htransparent
    case times =>
      rw [h.time]
      rfl
    case reference =>
      rw [h.reference]
      exact .none
    case elevation => exact helevation
    case interval => exact hinterval
  · constructor
    case style => exact hstyle
    case crs => exact Layer.acceptsCrs_of_mem hwellFormed.crs hcrs
    case reference =>
      rintro t ⟨⟩
    case times =>
      rintro t ⟨⟩
    case elevation => exact haccepts
    case interval => exact hpair

end LayerSummary.Asks

/-- A listed layer is drawn with every reference system, style, level and pair of interval ends
that is published about it, in every version and format of the service that is not blank, if its
current time can be told. -/
theorem MapRequest.accepted_of_advertised {s : Settings} {g : Generation} (hg : g.Reachable s)
    {access : Access} {request : CapabilitiesRequest} {l : Layer}
    (hl : l ∈ (Capabilities.ofRequest g access request).layers)
    (hname : IsElement l.name) (hne : l.name ≠ "") {p : Parameters MapParameter}
    (hasks : (LayerSummary.ofLayer l).Asks p) (hdraw : s.CanDraw p)
    (hversion : given (p .version) ≠ none) (hformat : given (p .format) ≠ none) (now : Instant)
    {present : Instant} (htells : ¬ l.StopsAtCurrent present none) :
    ∃ r, validate s g now present p = .ok r := by
  have hlayer : l ∈ g.layers := Layer.mem_of_mem_capabilities hl
  have hwellFormed : l.WellFormed :=
    hg.forall_layers (fun _ _ _ _ hcreate => Layer.create_wellFormed hcreate) l hlayer
  have hfind : g.find? l.name = some l := Generation.find?_eq_some_iff.2 ⟨hlayer, rfl⟩
  obtain ⟨q, style, hreads, hlayers, hsupported, hformats, hvalid, hreference, hoffers⟩ :=
    hasks.exists_query hwellFormed hname hne hdraw hversion hformat now
  obtain ⟨drawn, hdrawn⟩ : ∃ drawn, q.drawn present style l = some drawn := by
    refine Option.ne_none_iff_exists'.1 fun hnone => ?_
    have hstops := (MapQuery.drawn_eq_none_iff.1 hnone).2
    rw [hreference] at hstops
    exact htells hstops
  obtain ⟨r, hr, _⟩ := Generation.validate_of_find? hfind (MapQuery.read_eq_ok.2 hreads) hlayers
    hsupported hformats hvalid hoffers hdrawn
  exact ⟨r, hr⟩

namespace IceDrift

def text : String :=
  "\x7b\"name\":\"drift\",\"layer_type\":\"icemap\"," ++
  "\"styles\":[\x7b\"name\":\"arrows\"\x7d],\"intervals\":[\x7b\"start\":0,\"end\":24\x7d]\x7d"

def definition : Definition where
  name := some "drift"
  layerType := some "icemap"
  styles := [{ name := "arrows" }]
  intervals := [{ start := 0, stop := 24 }]

def metadata : Metadata := { bbox := .world, times := .none, levels := some (.depth, [10, 0]) }

def layer : Layer :=
  .assemble Reference.defaults (.ofDefinition text) definition .vectorStore metadata
    IceCharts.noon none

def generation (s : Settings) : Generation :=
  ((World.ofDefinition text metadata IceCharts.noon).run s [.refresh]).catalog.current

theorem reachable (s : Settings) : (generation s).Reachable s :=
  World.reachable_ofDefinition s text metadata IceCharts.noon [.refresh]

theorem layers_generation {s : Settings} (hroot : s.root = "config/wms")
    (hsuffix : s.definitionSuffix = ".json") (hreferences : s.references = Reference.defaults) :
    (generation s).layers = [layer] := by
  have hread : Definition.ofText? text = some definition := by cbv
  have hbuild :
      Layer.build s.references (.ofDefinition text) definition .vectorStore metadata
        IceCharts.noon = .ok layer := by
    rw [hreferences]
    exact Layer.build_eq_ok.2 ⟨by decide, none, rfl, .inr (.inl rfl), rfl⟩
  exact World.layers_ofDefinition hroot hsuffix hread rfl hbuild

theorem mem_capabilities {s : Settings} (hroot : s.root = "config/wms")
    (hsuffix : s.definitionSuffix = ".json") (hreferences : s.references = Reference.defaults) :
    layer ∈ (Capabilities.ofRequest (generation s) {} {}).layers :=
  Capabilities.mem_of_layers_eq (layers_generation hroot hsuffix hreferences) rfl

def parameters (version format : String) : Parameters MapParameter
  | .version => some version
  | .layers => some "drift"
  | .styles => some "arrows"
  | .crs => some "EPSG:4326"
  | .bbox => some "0,0,1,1"
  | .width => some "1"
  | .height => some "1"
  | .format => some format
  | .elevation => some "10"
  | .intervalStart => some "0"
  | .intervalEnd => some "24"
  | _ => none

theorem asks_parameters (version format : String) :
    (LayerSummary.ofLayer layer).Asks (parameters version format) := by
  constructor
  case layers => rfl
  case styles =>
    rintro style ⟨⟩
    exact ⟨by decide +kernel, by decide +kernel, by decide +kernel⟩
  case crs => exact ⟨"EPSG:4326", by decide +kernel, rfl, by decide +kernel⟩
  case time => rfl
  case reference => rfl
  case elevation =>
    exact .inr ⟨_, "10", 10, rfl, by decide +kernel, rfl, by decide +kernel⟩
  case interval =>
    exact .inr ⟨_, 0, 0, 24, rfl, by decide +kernel, by decide +kernel,
      .inr ⟨"0", "24", 0, 24, rfl, rfl, by decide +kernel, by decide +kernel, rfl⟩⟩

theorem canDraw_parameters {s : Settings} {version format : String}
    (hversion : s.supportsVersion version = true) (hformat : s.supportsFormat format = true) :
    s.CanDraw (parameters version format) := by
  constructor
  case version => exact ⟨version, rfl, hversion⟩
  case format => exact ⟨format, rfl, hformat⟩
  case bbox =>
    have hread : ∃ b, BoundingBox.read "0,0,1,1" = .ok b ∧ b.isValid = true :=
      ⟨_, rfl, by decide⟩
    obtain ⟨b, hb, hvalid⟩ := hread
    exact ⟨"0,0,1,1", b, ⟨rfl, by decide +kernel⟩, BoundingBox.read_eq_ok.1 hb,
      BoundingBox.isValid_iff.1 hvalid⟩
  case width => exact ⟨"1", 1, ⟨rfl, by decide +kernel⟩, by decide +kernel, by decide⟩
  case height => exact ⟨"1", 1, ⟨rfl, by decide +kernel⟩, by decide +kernel, by decide⟩
  case transparent => exact ⟨false, rfl⟩

end IceDrift

open IceDrift in
/-- A service that speaks a blank version, or draws in a blank format, takes a request for it as
one without. -/
theorem MapRequest.advertised_refused_blank :
    (∃ s g, Generation.Reachable s g ∧ layer ∈ (Capabilities.ofRequest g {} {}).layers ∧
      (LayerSummary.ofLayer layer).Asks (parameters " " "image/png") ∧
      s.CanDraw (parameters " " "image/png") ∧
      ∀ now present, validate s g now present (parameters " " "image/png") =
        .error (.refused (.missingParameter "VERSION"))) ∧
    ∃ s g, Generation.Reachable s g ∧ layer ∈ (Capabilities.ofRequest g {} {}).layers ∧
      (LayerSummary.ofLayer layer).Asks (parameters "1.3.0" " ") ∧
      s.CanDraw (parameters "1.3.0" " ") ∧
      ∀ now present, validate s g now present (parameters "1.3.0" " ") =
        .error (.refused (.missingParameter "FORMAT")) := by
  apply And.intro
  · refine ⟨{ versions := [" "] }, _, reachable _, mem_capabilities rfl rfl rfl,
      asks_parameters _ _, canDraw_parameters (by decide) (by decide +kernel), ?_⟩
    intro now present
    have hread :
        MapQuery.read now (parameters " " "image/png") = .error (.missingParameter "VERSION") :=
      rfl
    rw [validate, hread]
    rfl
  · refine ⟨{ mapFormats := [" "] }, _, reachable _, mem_capabilities rfl rfl rfl,
      asks_parameters _ _, canDraw_parameters (by decide) (by decide +kernel), ?_⟩
    intro now present
    have hread :
        MapQuery.read now (parameters "1.3.0" " ") = .error (.missingParameter "FORMAT") := rfl
    rw [validate, hread]
    rfl

open IceDrift in
/-- The drift is drawn at one of its depths and over its only interval. -/
theorem MapRequest.accepted_of_advertised_drift :
    ∃ g r, Generation.Reachable {} g ∧ layer ∈ (Capabilities.ofRequest g {} {}).layers ∧
      (LayerSummary.ofLayer layer).Asks (parameters "1.3.0" "image/png") ∧
      Settings.CanDraw {} (parameters "1.3.0" "image/png") ∧
      ¬ layer.StopsAtCurrent IceCharts.noon none ∧
      validate {} g IceCharts.noon IceCharts.noon (parameters "1.3.0" "image/png") = .ok r := by
  have hlisted : layer ∈ (Capabilities.ofRequest (generation {}) {} {}).layers :=
    mem_capabilities rfl rfl rfl
  have hasks : (LayerSummary.ofLayer layer).Asks (parameters "1.3.0" "image/png") :=
    asks_parameters _ _
  have hdraw : Settings.CanDraw {} (parameters "1.3.0" "image/png") :=
    canDraw_parameters (by decide) (by decide +kernel)
  have helement : IsElement layer.name := ⟨by decide +kernel, by decide +kernel⟩
  -- the drift has no times
  have htells : ¬ layer.StopsAtCurrent IceCharts.noon none := by
    rintro ⟨a, d, haxis, _⟩
    cases haxis
  obtain ⟨r, hr⟩ :=
    accepted_of_advertised (reachable {}) hlisted helement (by decide) hasks hdraw
    (by decide +kernel) (by decide +kernel) IceCharts.noon htells
  exact ⟨_, r, reachable {}, hlisted, hasks, hdraw, htells, hr⟩

end LayerAtlas
