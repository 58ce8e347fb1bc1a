import LayerAtlas.Proofs.Resubmission
import LayerAtlas.Request.Legend

namespace LayerAtlas

open Text Request Checks

namespace LegendRequest

variable {s : Settings} {g : Generation} {p : Parameters LegendParameter} {r : LegendRequest}

/-- The answer to a legend request: a published layer that has the style asked for, in a format
of maps. -/
structure Answers (s : Settings) (g : Generation) (p : Parameters LegendParameter)
    (r : LegendRequest) : Prop where
  version : ∀ version ∈ p .version, version ∈ s.versions
  layer : ∃ name, Given (p .layer) name ∧ g.find? name = some r.layer
  accepted : r.layer.acceptsStyle (trim ((p .style).getD "")) = true
  style : r.style = styleOrDefault (trim ((p .style).getD ""))
  served : ∃ format ∈ s.mapFormats, sameLetters format r.format = true
  format : r.format = (p .format).getD "image/png"
  width : Option.Rel Size (p .width) r.width
  height : Option.Rel Size (p .height) r.height

def ensureGiven (s : Settings) : Option String → Except RequestError Unit
  | some version => ensureVersion s version
  | none => .ok ()

def ofLayer (s : Settings) (p : Parameters LegendParameter) (name : String) (l : Layer) :
    Except RequestError LegendRequest := do
  let style := trim ((p .style).getD "")
  ensure (l.acceptsStyle style) (.styleNotFound name style)
  let format := (p .format).getD defaultFormat
  ensureFormat s format
  let width ← readOptional (readSize "WIDTH") (p .width)
  let height ← readOptional (readSize "HEIGHT") (p .height)
  return { layer := l, style := styleOrDefault style, format, width, height }

theorem validate_eq_bind (s : Settings) (g : Generation) (p : Parameters LegendParameter) :
    validate s g p = ensureGiven s (p .version) >>= fun _ =>
      required "LAYER" (p .layer) >>= fun name =>
      match g.find? name with
      | none => .error (.layerNotFound name)
      | some l => ofLayer s p name l := by
  rw [validate]
  cases p .version
  all_goals
    refine bind_congr fun _ => bind_congr fun name => ?_
    cases g.find? name with
    | none => rfl
    | some l => rfl

theorem ensureGiven_eq_ok {value : Option String} {u : Unit} :
    ensureGiven s value = .ok u ↔ ∀ version ∈ value, version ∈ s.versions := by
  cases value with
  | none => simp [ensureGiven]
  | some version =>
    simp [ensureGiven, ensureVersion, ensure_eq_ok, Settings.supportsVersion_iff]

theorem ofLayer_eq_ok {name : String} {l : Layer} :
    ofLayer s p name l = .ok r ↔
    r.layer = l ∧ l.acceptsStyle (trim ((p .style).getD "")) = true ∧
      r.style = styleOrDefault (trim ((p .style).getD "")) ∧
      (∃ format ∈ s.mapFormats, sameLetters format r.format = true) ∧
      r.format = (p .format).getD "image/png" ∧
      Option.Rel Size (p .width) r.width ∧ Option.Rel Size (p .height) r.height := by
  simp only [ofLayer, bind_eq_ok, ensureFormat, ensure_eq_ok, exists_const, readOptional_eq_ok,
    readSize_eq_ok, pure_eq_ok, Settings.supportsFormat_iff]
  generalize styleOrDefault (trim ((p .style).getD "")) = style
  apply Iff.intro
  · rintro ⟨haccepted, hserved, width, hwidth, height, hheight, rfl⟩
    exact ⟨rfl, haccepted, rfl, hserved, rfl, hwidth, hheight⟩
  · rintro ⟨rfl, haccepted, hstyle, hserved, hformat, hwidth, hheight⟩
    rw [hformat] at hserved
    refine ⟨haccepted, hserved, r.width, hwidth, r.height, hheight, ?_⟩
    cases r
    cases hstyle
    cases hformat
    rfl

theorem validate_eq_ok : validate s g p = .ok r ↔ Answers s g p r := by
  simp only [validate_eq_bind, bind_eq_ok, ensureGiven_eq_ok, required_eq_ok, exists_const]
  apply Iff.intro
  · rintro ⟨hversion, name, hname, h⟩
    cases hl : g.find? name with
    | none =>
      rw [hl] at h
      cases h
    | some l =>
      rw [hl] at h
      obtain ⟨rfl, haccepted, hstyle, hserved, hformat, hwidth, hheight⟩ := ofLayer_eq_ok.1 h
      exact ⟨hversion, ⟨name, hname, hl⟩, haccepted, hstyle, hserved, hformat, hwidth, hheight⟩
  · rintro ⟨hversion, ⟨name, hname, hl⟩, haccepted, hstyle, hserved, hformat, hwidth, hheight⟩
    refine ⟨hversion, name, hname, ?_⟩
    rw [hl]
    exact ofLayer_eq_ok.2 ⟨rfl, haccepted, hstyle, hserved, hformat, hwidth, hheight⟩

def parametersOf (p : Parameters MapParameter) (pair : String × String) :
    Parameters LegendParameter
  | .version => p .version
  | .layer => some pair.1
  | .style => some pair.2
  | .format => p .format
  | .width => p .width
  | .height => p .height

/-- The legend that goes with a layer of a map. -/
def ofMap (r : MapRequest) (drawn : MapLayer) : LegendRequest where
  layer := drawn.layer
  style := drawn.style
  format := r.format
  width := some r.width
  height := some r.height

theorem paired_trimmed {layers styles : String} {pairs : List (String × String)}
    {pair : String × String} (h : Paired (splitList layers) (splitList styles) pairs)
    (hpair : pair ∈ pairs) :
    trim pair.1 ≠ "" ∧ trim pair.2 = pair.2 := by
  obtain ⟨⟨⟨_, htrimmed⟩, hne⟩, _⟩ := isElement_of_paired h hpair
  obtain ⟨_, hempty | hstyle⟩ := h.mem hpair
  · rw [htrimmed, hempty]
    exact ⟨hne, by decide +kernel⟩
  · rw [htrimmed]
    exact ⟨hne, (isElement_of_mem_splitList hstyle).2⟩

variable {now present : Instant} {p : Parameters MapParameter} {r : MapRequest}

/-- Every layer of a map that is drawn has a legend: asked for with the name and the style of
the layer, and with the version, format and size of the map, it is that of the layer and the
style that are drawn. -/
theorem validate_ofMap (h : MapRequest.validate s g now present p = .ok r) :
    ∃ pairs, pairLayers (p .layers) (p .styles) = .ok pairs ∧
      List.Forall₂ (fun pair drawn => validate s g (parametersOf p pair) = .ok (ofMap r drawn))
        pairs r.layers := by
  obtain ⟨q, hreads, hservable, hanswer⟩ := MapRequest.exists_query h
  refine ⟨q.layers, pairLayers_eq_ok.2 hreads.layers, ?_⟩
  apply ((List.forall₂_and_left _ _).2 ⟨fun pair hpair => hpair, hanswer.layers⟩).imp
  rintro pair drawn ⟨hpair, l, hl, hdrawn⟩
  obtain ⟨rfl, hdrawnStyle, _⟩ := MapQuery.drawn_eq_some_iff.1 hdrawn
  obtain ⟨hname, hstyle⟩ := paired_trimmed hreads.layers hpair
  obtain ⟨m, hm, hoffers⟩ := hservable.layers pair hpair
  cases hl.symm.trans hm
  obtain ⟨width, ⟨hwidth, _⟩, hwidthSize⟩ := hreads.width
  obtain ⟨height, ⟨hheight, _⟩, hheightSize⟩ := hreads.height
  apply validate_eq_ok.2
  constructor
  case version =>
    rintro version hversion
    rw [parametersOf, hreads.version.1] at hversion
    cases hversion
    exact hservable.version
  case layer => exact ⟨pair.1, ⟨rfl, hname⟩, hl⟩
  case accepted =>
    change drawn.layer.acceptsStyle (trim pair.2) = true
    rw [hstyle]
    exact hoffers.style
  case style =>
    change _ = styleOrDefault (trim pair.2)
    rw [hstyle]
    exact hdrawnStyle
  case served =>
    rw [ofMap, hanswer.format]
    exact hservable.format
  case format =>
    rw [ofMap, parametersOf, hanswer.format, hreads.format.1]
    rfl
  case width =>
    rw [parametersOf, hwidth, ofMap, hanswer.width]
    exact .some hwidthSize
  case height =>
    rw [parametersOf, hheight, ofMap, hanswer.height]
    exact .some hheightSize

end LegendRequest

namespace IceCharts

def spaced : Parameters MapParameter
  | .layers => some " ice "
  | .styles => some " Default "
  | .width => some " +640 "
  | .format => some "Image/PNG"
  | parameter => parameters parameter

theorem read_spaced : ∃ q, MapQuery.read noon spaced = .ok q ∧ q.layers = [("ice", "Default")] ∧
    q.format = "Image/PNG" ∧ q.width = 640 ∧ q.height = 1 ∧
    AsksChart { q with layers := [("ice", "")], format := "image/png" } ∧ q.times = [] :=
  ⟨_, rfl, rfl, rfl, rfl, rfl, ⟨rfl, rfl, rfl, rfl, by decide, rfl, rfl, rfl⟩, rfl⟩

theorem validate_spaced (i : TimeInterval) :
    ∃ r, MapRequest.validate {} ((world i).run {} [.refresh]).catalog.current noon noon
      spaced = .ok r ∧
      r.layers = [{ drawn i with style := "Default" }] ∧ r.format = "Image/PNG" ∧
      r.width = 640 ∧ r.height = 1 := by
  obtain ⟨q, hread, hlayers, hformat, hwidth, hheight, hq, htimes⟩ := read_spaced
  have hversion : Settings.supportsVersion {} q.version = true := by
    rw [hq.version]
    decide
  have hserved : Settings.supportsFormat {} q.format = true := by
    rw [hformat]
    exact Settings.supportsFormat_iff.2 ⟨"image/png", by decide, by cbv⟩
  have haccepts : ∀ t ∈ q.times, (layer i).acceptsTime noon none t = some true := by
    rw [htimes]
    exact List.forall_mem_nil _
  have hstyle : (layer i).acceptsStyle "Default" = true := by
    have hsame : sameLetters "Default" defaultStyle = true := by cbv
    rw [Layer.acceptsStyle, hsame, Bool.or_true, Bool.true_or]
  have hoffers : (layer i).Offers noon q "Default" :=
    { hq.offers haccepts with style := hstyle }
  have hfind := Generation.find?_of_layers_eq (layers_refresh i)
  have hdrawn :
      q.drawn noon "Default" (layer i) = some { drawn i with style := "Default" } := by
    refine MapQuery.drawn_eq_some_iff.2 ⟨rfl, rfl, ?_⟩
    rw [MapQuery.current?, if_pos htimes, hq.reference]
    rfl
  obtain ⟨r, hr, _, _, hlayers⟩ :=
    Generation.validate_of_find? hfind hread hlayers hversion hserved hq.bbox hoffers hdrawn
  obtain ⟨q', hreads, _, hanswer⟩ := MapRequest.exists_query hr
  obtain rfl := Except.ok.inj (hread.symm.trans (MapQuery.read_eq_ok.2 hreads))
  exact ⟨r, hr, hlayers, hanswer.format.trans hformat, hanswer.width.trans hwidth,
    hanswer.height.trans hheight⟩

end IceCharts

open IceCharts in
/-- The legend of a chart that is asked for with blanks around its name, its style and its
width. -/
theorem LegendRequest.validate_ofMap_spaced :
    ∃ g r, MapRequest.validate {} g noon noon spaced = .ok r ∧
      validate {} g (parametersOf spaced ("ice", "Default")) =
        .ok {
          layer := IceCharts.layer threeHours, style := "Default", format := "Image/PNG"
          width := some 640, height := some 1 } := by
  obtain ⟨r, hr, hlayers, hformat, hwidth, hheight⟩ := validate_spaced threeHours
  refine ⟨_, r, hr, ?_⟩
  obtain ⟨pairs, hpairs, hlegends⟩ := validate_ofMap hr
  have hspaced : pairLayers (spaced .layers) (spaced .styles) = .ok [("ice", "Default")] := rfl
  obtain rfl := Except.ok.inj (hspaced.symm.trans hpairs)
  rw [hlayers] at hlegends
  obtain ⟨hlegend, _⟩ := List.forall₂_cons.1 hlegends
  rw [ofMap, hformat, hwidth, hheight] at hlegend
  exact hlegend

end LayerAtlas
