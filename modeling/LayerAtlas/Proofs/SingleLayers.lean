import LayerAtlas.Proofs.MapAcceptance
import LayerAtlas.Proofs.Runs
import LayerAtlas.Request.Capabilities

namespace LayerAtlas

open Request Checks

namespace World

variable {settings : Settings} {w : World} {source : Source} {l : Layer}

theorem layers_refresh_of_create (hnew : w.catalog = {})
    (hscan : w.scanned settings = .ok { sources := [source], broken := [] })
    (hcreate : Layer.create settings w.backend w.now source = .ok l) :
    (w.run settings [.refresh]).catalog.current.layers = [l] := by
  have houtcome :
      Outcome.ofSource .empty (Layer.create settings w.backend w.now) w.now source =
        .built l := by
    rw [Outcome.ofSource, hcreate]
    rfl
  obtain ⟨e, he, _⟩ | ⟨found, summary, catalog, hfound, hpublish, hstep⟩ :=
    step_refresh_cases settings w
  · rw [hscan] at he
    cases he
  · rw [hscan] at hfound
    cases hfound
    change (w.step settings .refresh).catalog.current.layers = _
    rw [hstep]
    rw [hnew] at hpublish
    change Catalog.publish {}
      [Outcome.ofSource .empty (Layer.create settings w.backend w.now) w.now source] =
        (summary, catalog) at hpublish
    rw [houtcome] at hpublish
    cases hpublish
    rfl

end World

def Source.ofDefinition (text : String) : Source where
  customer := "north"
  nameSpace := "north"
  stem := "layer"
  path := Scan.pathOf (joinPath "config/wms" "customers") ["north", "layer.json"]
  modified := some 1
  text := some text

theorem Path.isName_north : Path.IsName "north" := ⟨by decide, by decide⟩

theorem Path.isName_layer : Path.IsName "layer.json" := ⟨by decide, by decide⟩

namespace World

def ofDefinition (text : String) (metadata : Metadata) (now : Instant) : World where
  products :=
    .ofFile "north" "layer.json" Path.isName_north Path.isName_layer
    { modified := 1, text := some text }
  backend := fun _ _ => .ok metadata
  now

variable {settings : Settings} {text : String} {metadata : Metadata} {now : Instant}
  {d : Definition}
  {kind : LayerKind} {l : Layer}

theorem reachable_ofDefinition (settings : Settings) (text : String) (metadata : Metadata)
    (now : Instant) (events : List Event) :
    ((ofDefinition text metadata now).run settings events).catalog.current.Reachable settings :=
  ⟨_, _, now, events, rfl⟩

theorem scanned_ofDefinition (hroot : settings.root = "config/wms")
    (hsuffix : settings.definitionSuffix = ".json") :
    (ofDefinition text metadata now).scanned settings =
      .ok { sources := [.ofDefinition text], broken := [] } := by
  rw [scanned, hroot, hsuffix]
  exact scan_ofFile Path.isName_north Path.isName_layer _ (by decide) (by decide)

theorem create_ofDefinition (hread : Definition.ofText? text = some d)
    (hkind : d.kind (Source.ofDefinition text).path settings.observationProducers = .ok kind)
    (hbuild : Layer.build settings.references (.ofDefinition text) d kind metadata
    now = .ok l) :
    Layer.create settings (ofDefinition text metadata now).backend now
      (.ofDefinition text) = .ok l := by
  have hdefinition : Layer.definitionOf settings (.ofDefinition text) = .ok (d, kind) := by
    rw [Layer.definitionOf, Source.ofDefinition]
    simp only [hread]
    exact map_eq_ok.2 ⟨kind, hkind, rfl⟩
  exact Layer.create_eq_ok.2 ⟨d, kind, metadata, hdefinition, rfl, hbuild⟩

theorem layers_ofDefinition (hroot : settings.root = "config/wms")
    (hsuffix : settings.definitionSuffix = ".json") (hread : Definition.ofText? text = some d)
    (hkind : d.kind (Source.ofDefinition text).path settings.observationProducers = .ok kind)
    (hbuild : Layer.build settings.references (.ofDefinition text) d kind metadata
    now = .ok l) :
    ((ofDefinition text metadata now).run settings [.refresh]).catalog.current.layers = [l] :=
  layers_refresh_of_create rfl (scanned_ofDefinition hroot hsuffix)
    (create_ofDefinition hread hkind hbuild)

end World

namespace Generation

variable {settings : Settings} {g : Generation} {l : Layer} {present now : Instant}
  {q : MapQuery} {style : String}

theorem find?_of_layers_eq (h : g.layers = [l]) : g.find? l.name = some l := by
  apply find?_eq_some_iff.2
  exact ⟨h ▸ List.mem_singleton_self l, rfl⟩

theorem servable_of_find? {name : String} (hfind : g.find? name = some l)
    (hlayers : q.layers = [(name, style)])
    (hversion : settings.supportsVersion q.version = true)
    (hformat : settings.supportsFormat q.format = true) (hbbox : q.bbox.isValid = true)
    (hoffers : l.Offers present q style) : q.Servable settings g present := by
  refine ⟨Settings.supportsVersion_iff.1 hversion, Settings.supportsFormat_iff.1 hformat,
    BoundingBox.isValid_iff.1 hbbox, ?_⟩
  intro pair hpair
  rw [hlayers, List.mem_singleton] at hpair
  rw [hpair]
  exact ⟨l, hfind, hoffers⟩

theorem validate_of_servable {p : Parameters MapParameter} {name : String} {drawn : MapLayer}
    (hfind : g.find? name = some l) (hreads : MapQuery.Reads now p q)
    (hservable : q.Servable settings g present) (hlayers : q.layers = [(name, style)])
    (hdrawn : q.drawn present style l = some drawn) :
    ∃ r, MapRequest.validate settings g now present p = .ok r ∧ r.times = q.times ∧
      r.reference = q.reference ∧ r.layers = [drawn] := by
  have htells : q.Tells g present := by
    rw [MapQuery.tells_iff]
    intro pair hpair m hm
    rw [hlayers, List.mem_singleton] at hpair
    rw [hpair] at hm ⊢
    cases hfind.symm.trans hm
    rw [hdrawn]
    exact Option.some_ne_none drawn
  obtain ⟨r, hr⟩ := hservable.ofQuery htells
  have hanswer := (MapQuery.servable_of_ofQuery hr).2
  refine ⟨r, MapRequest.validate_eq_ok.2 ⟨q, hreads, hr⟩, hanswer.times, hanswer.reference, ?_⟩
  have hall := hanswer.layers
  rw [hlayers] at hall
  obtain ⟨first, rest, ⟨m, hm, hfirst⟩, hrest, hr⟩ := List.forall₂_cons_left_iff.1 hall
  cases hfind.symm.trans hm
  cases hdrawn.symm.trans hfirst
  rw [hr, List.forall₂_nil_left_iff.1 hrest]

theorem validate_of_find? {p : Parameters MapParameter} {name : String} {drawn : MapLayer}
    (hfind : g.find? name = some l) (hread : MapQuery.read now p = .ok q)
    (hlayers : q.layers = [(name, style)])
    (hversion : settings.supportsVersion q.version = true)
    (hformat : settings.supportsFormat q.format = true) (hbbox : q.bbox.isValid = true)
    (hoffers : l.Offers present q style) (hdrawn : q.drawn present style l = some drawn) :
    ∃ r, MapRequest.validate settings g now present p = .ok r ∧ r.times = q.times ∧
      r.reference = q.reference ∧ r.layers = [drawn] :=
  validate_of_servable hfind (MapQuery.read_eq_ok.1 hread)
    (servable_of_find? hfind hlayers hversion hformat hbbox hoffers) hlayers hdrawn

end Generation

theorem Capabilities.mem_of_layers_eq {g : Generation} {l : Layer} (h : g.layers = [l])
    (hshown : l.hidden = false) :
    l ∈ (ofRequest g {} {}).layers := by
  have hlists : lists {} {} l = true := by
    rw [lists, hshown]
    rfl
  have hlayers : (ofRequest g {} {}).layers = g.layers.filter (lists {} {}) := rfl
  rw [hlayers, h, List.mem_filter]
  exact ⟨List.mem_singleton_self l, hlists⟩

end LayerAtlas
