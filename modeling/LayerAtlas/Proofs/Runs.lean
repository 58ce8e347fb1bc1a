import LayerAtlas.Proofs.BuiltLayers
import LayerAtlas.Proofs.Places
import LayerAtlas.Proofs.Publication

namespace LayerAtlas

namespace Outcome

theorem reusable?_eq_some_iff {g : Generation} (hfiles : (g.layers.map Layer.productFile).Nodup)
    {now : Instant} {source : Source} {l : Layer} :
    reusable? g now source = some l ↔ l ∈ g.layers ∧ l.isFresh now = true ∧
      l.productFile = source.path ∧ l.modified.isSome = true ∧
      l.modified = source.modified := by
  rw [reusable?, Option.filter_eq_some_iff, Checks.find?_eq_some_iff_of_unique]
  · simp only [Bool.and_eq_true, decide_eq_true_eq, and_assoc, List.mem_reverse]
  · intro x hx y hy hxfile hyfile
    simp only [Bool.and_eq_true, decide_eq_true_eq, List.mem_reverse] at hxfile hyfile hx hy
    exact List.inj_on_of_nodup_map hfiles hx hy (hxfile.2.trans hyfile.2.symm)

theorem layer?_ofSource {g : Generation} {build : Source → Except BuildError Layer}
    {now : Instant} {source : Source} {l : Layer}
    (h : (ofSource g build now source).layer? = some l) :
    reusable? g now source = some l ∨ build source = .ok l := by
  rw [ofSource] at h
  cases hreusable : reusable? g now source with
  | some m =>
    rw [hreusable] at h
    exact .inl h
  | none =>
    rw [hreusable] at h
    cases hbuild : build source with
    | error e =>
      rw [hbuild] at h
      cases h
    | ok m =>
      rw [hbuild] at h
      cases h
      exact .inr rfl

end Outcome

/-- A product tree as file systems have them. -/
structure ProductTree where
  entry : Entry
  proper : entry.Proper

def ProductTree.ofFile (customer name : String) (hcustomer : Path.IsName customer)
    (hname : Path.IsName name) (f : FileState) : ProductTree where
  entry := .directory [("customers", .directory [(customer, .directory
    [("products", .directory [(name, .file f)])])])]
  proper := by
    have hsingle : ∀ {name : String} {e : Entry}, Path.IsName name → e.Proper →
        (Entry.directory [(name, e)]).Proper := by
      intro name e hname he
      refine .directory (List.nodup_singleton _) ?_ ?_
      · intro x hx
        rw [List.mem_singleton.1 hx]
        exact hname
      · intro x hx
        rw [List.mem_singleton.1 hx]
        exact he
    have hcustomers : Path.IsName "customers" := ⟨by decide, by decide⟩
    have hproducts : Path.IsName "products" := ⟨by decide, by decide⟩
    exact hsingle hcustomers (hsingle hcustomer (hsingle hproducts (hsingle hname (.file f))))

theorem scan_ofFile {root suffix customer name : String} (hcustomer : Path.IsName customer)
    (hname : Path.IsName name) (f : FileState) (hshown : Scan.isHidden customer = false)
    (hshown' : Scan.isHidden name = false) :
    scan root suffix (ProductTree.ofFile customer name hcustomer hname f).entry = .ok {
      sources := [{ place := [customer, name], file := some f }].filterMap
        (Scan.source? (joinPath root "customers") suffix)
      broken := [] } := by
  simp [scan, ProductTree.ofFile, Entry.child?, Entry.entries?, Entry.isDirectory,
    Scan.ofCustomers, Scan.ofCustomer, Scan.leaves, Scan.branches, hshown, hshown']

abbrev Backend := LayerKind → Definition → Except ProbeError Metadata

structure Refreshed where
  scanned : Except ScanError Scan
  answer : Except ScanError RefreshSummary

structure World where
  products : ProductTree
  backend : Backend
  now : Instant
  catalog : Catalog := {}
  log : List Refreshed := []

inductive Event where
  | products (tree : ProductTree)
  | backend (backend : Backend)
  | clock (now : Instant)
  | refresh

namespace World

variable (settings : Settings)

def scanned (w : World) : Except ScanError Scan :=
  scan settings.root settings.definitionSuffix w.products.entry

def refreshed (w : World) : Except ScanError RefreshSummary × Catalog :=
  w.catalog.refresh (w.scanned settings) (Layer.create settings w.backend w.now) w.now

def step (w : World) : Event → World
  | .products tree => { w with products := tree }
  | .backend backend => { w with backend }
  | .clock now => { w with now }
  | .refresh =>
    let (answer, catalog) := w.refreshed settings
    { w with catalog, log := { scanned := w.scanned settings, answer } :: w.log }

def run (w : World) (events : List Event) : World := events.foldl (step settings) w

def successes (w : World) : List Refreshed := w.log.filter fun r => r.answer.isOk

def lastScan? (w : World) : Option Scan := w.successes.head?.bind fun r => r.scanned.toOption

structure Sound (w : World) : Prop where
  number : w.catalog.current.number = w.successes.length
  next : w.catalog.next = w.successes.length + 1
  files : (w.catalog.current.layers.map Layer.productFile).Nodup
  sources : ∀ l ∈ w.catalog.current.layers, ∃ found, w.lastScan? = some found ∧
    ∃ source ∈ found.sources, source.path = l.productFile
  wellFormed : ∀ l ∈ w.catalog.current.layers, l.WellFormed

variable {settings} {w : World}

/-- What a refresh can do: fail with the scan, or publish the outcomes of the sources found. -/
theorem step_refresh_cases (settings : Settings) (w : World) :
    (∃ e, w.scanned settings = .error e ∧
        w.step settings .refresh =
          { w with log := { scanned := .error e, answer := .error e } :: w.log }) ∨
      ∃ found summary catalog, w.scanned settings = .ok found ∧
        w.catalog.publish (found.sources.map
          (Outcome.ofSource w.catalog.current (Layer.create settings w.backend w.now) w.now)) =
            (summary, catalog) ∧
        w.step settings .refresh =
          { w with
            catalog
            log := { scanned := .ok found, answer := .ok summary } :: w.log } := by
  rw [step, refreshed]
  cases hscan : w.scanned settings with
  | error e => exact .inl ⟨e, rfl, rfl⟩
  | ok found => exact .inr ⟨found, _, _, rfl, rfl, rfl⟩

theorem Sound.published (h : w.Sound) {found : Scan} {l : Layer}
    (hl : l ∈ (Selection.ofOutcomes (found.sources.map
      (Outcome.ofSource w.catalog.current (Layer.create settings w.backend w.now)
        w.now))).layers) :
    ∃ source ∈ found.sources, source.path = l.productFile ∧ l.WellFormed ∧
      (Outcome.ofSource w.catalog.current (Layer.create settings w.backend w.now) w.now
        source).layer? = some l := by
  obtain ⟨o, ho, hlayer⟩ := (Selection.mem_ofOutcomes l).1 hl
  obtain ⟨source, hsource, rfl⟩ := List.mem_map.1 (List.mem_of_find?_eq_some ho)
  refine ⟨source, hsource, ?_⟩
  -- a layer that is carried over was well formed and of this file already
  rcases Outcome.layer?_ofSource hlayer with hreused | hbuilt
  · obtain ⟨hmem, _, hpath, _⟩ := (Outcome.reusable?_eq_some_iff h.files).1 hreused
    exact ⟨hpath.symm, h.wellFormed l hmem, hlayer⟩
  · exact ⟨(Layer.productFile_of_create hbuilt).symm, Layer.create_wellFormed hbuilt, hlayer⟩

theorem Sound.refresh (h : w.Sound) : (w.step settings .refresh).Sound := by
  obtain ⟨e, _, hstep⟩ | ⟨found, summary, catalog, hscan, hpublish, hstep⟩ :=
    step_refresh_cases settings w
  · rw [hstep]
    exact ⟨h.number, h.next, h.files, h.sources, h.wellFormed⟩
  · rw [hstep]
    cases hpublish
    constructor
    · exact h.next
    · exact congrArg (· + 1) h.next
    · have hnodup :=
        (Selection.ofOutcomes (found.sources.map (Outcome.ofSource w.catalog.current
        (Layer.create settings w.backend w.now) w.now))).ascending.nodup.of_map
      refine List.Nodup.map_on ?_ hnodup
      intro l hl m hm hfile
      obtain ⟨s, hs, hsfile, _, hslayer⟩ := h.published hl
      obtain ⟨s', hs', hsfile', _, hslayer'⟩ := h.published hm
      -- one path is that of one source, and so of one layer
      have hsource : s = s' :=
        List.inj_on_of_nodup_map (scan_paths_nodup w.products.proper hscan) hs hs'
          (hsfile.trans (hfile.trans hsfile'.symm))
      rw [hsource, hslayer'] at hslayer
      exact (Option.some.inj hslayer).symm
    · intro l hl
      obtain ⟨source, hsource, hfile, _⟩ := h.published hl
      exact ⟨found, rfl, source, hsource, hfile⟩
    · intro l hl
      obtain ⟨_, _, _, hwf, _⟩ := h.published hl
      exact hwf

theorem Sound.step (h : w.Sound) (event : Event) : (w.step settings event).Sound := by
  cases event with
  | products tree => exact ⟨h.number, h.next, h.files, h.sources, h.wellFormed⟩
  | backend backend => exact ⟨h.number, h.next, h.files, h.sources, h.wellFormed⟩
  | clock now => exact ⟨h.number, h.next, h.files, h.sources, h.wellFormed⟩
  | refresh => exact h.refresh

theorem Sound.run (h : w.Sound) (events : List Event) : (w.run settings events).Sound := by
  induction events generalizing w with
  | nil => exact h
  | cons event events ih => exact ih (h.step event)

theorem sound_new (products : ProductTree) (backend : Backend) (now : Instant) :
    Sound { products, backend, now } := by
  constructor
  · rfl
  · rfl
  · exact List.nodup_nil
  · intro l hl
    cases hl
  · intro l hl
    cases hl

theorem forall_layers_refresh {P : Layer → Prop} (h : ∀ l ∈ w.catalog.current.layers, P l)
    (hbuilt : ∀ found, w.scanned settings = .ok found → ∀ source ∈ found.sources, ∀ l,
      Layer.create settings w.backend w.now source = .ok l → P l) :
    ∀ l ∈ (w.step settings .refresh).catalog.current.layers, P l := by
  intro l hl
  obtain ⟨e, _, hstep⟩ | ⟨found, summary, catalog, hscan, hpublish, hstep⟩ :=
    step_refresh_cases settings w
  · rw [hstep] at hl
    exact h l hl
  · rw [hstep] at hl
    cases hpublish
    obtain ⟨o, ho, hlayer⟩ := (Selection.mem_ofOutcomes l).1 hl
    obtain ⟨source, hsource, rfl⟩ := List.mem_map.1 (List.mem_of_find?_eq_some ho)
    rcases Outcome.layer?_ofSource hlayer with hreused | hbuild
    · exact h l
        (List.mem_reverse.1 (List.mem_of_find?_eq_some (Option.filter_eq_some_iff.1 hreused).1))
    · exact hbuilt found hscan source hsource l hbuild

theorem forall_layers_run {P : Layer → Prop} (h : ∀ l ∈ w.catalog.current.layers, P l)
    (hbuilt : ∀ backend now source l, Layer.create settings backend now source = .ok l → P l)
    (events : List Event) : ∀ l ∈ (w.run settings events).catalog.current.layers, P l := by
  induction events generalizing w with
  | nil => exact h
  | cons event events ih =>
    refine ih ?_
    cases event with
    | products tree => exact h
    | backend backend => exact h
    | clock now => exact h
    | refresh =>
      exact forall_layers_refresh h fun _ _ source _ l => hbuilt w.backend w.now source l

theorem catalog_of_failed_refresh {e : ScanError} (h : (w.refreshed settings).1 = .error e) :
    (w.refreshed settings).2 = w.catalog := by
  rw [refreshed] at h ⊢
  cases hscan : w.scanned settings with
  | error e' => rfl
  | ok found =>
    rw [hscan] at h
    cases h

/-- After every run the number of the published generation is the count of successful refreshes,
and a refresh that fails would change neither it nor the next number. Layers are published under
their names, one for each file at most, all from files that the last successful refresh found,
and all of them well formed. -/
theorem run_invariant (settings : Settings) (products : ProductTree) (backend : Backend)
    (now : Instant) (events : List Event) :
    let w := run settings { products, backend, now } events
    w.catalog.current.number = w.successes.length ∧
      w.catalog.next = w.successes.length + 1 ∧
      (∀ e, (w.refreshed settings).1 = .error e →
        (w.step settings .refresh).catalog = w.catalog) ∧
      (∀ name l, w.catalog.current.find? name = some l → l.name = name) ∧
      (w.catalog.current.layers.map Layer.productFile).Nodup ∧
      (∀ l ∈ w.catalog.current.layers, ∃ found, w.lastScan? = some found ∧
        ∃ source ∈ found.sources, source.path = l.productFile) ∧
      ∀ l ∈ w.catalog.current.layers, l.WellFormed := by
  intro w
  have hsound : w.Sound := (sound_new products backend now).run events
  refine ⟨hsound.number, hsound.next, ?_, ?_, hsound.files, hsound.sources, hsound.wellFormed⟩
  · intro e he
    exact catalog_of_failed_refresh he
  · intro name l hl
    exact (Generation.find?_eq_some_iff.1 hl).2

end World

/-- A generation that is published after some run of a new catalog. -/
def Generation.Reachable (settings : Settings) (g : Generation) : Prop :=
  ∃ (products : ProductTree) (backend : Backend) (now : Instant) (events : List Event),
    (World.run settings { products, backend, now } events).catalog.current = g

theorem Generation.Reachable.forall_layers {settings : Settings} {g : Generation}
    (h : g.Reachable settings) {P : Layer → Prop}
    (hbuilt : ∀ backend now source l, Layer.create settings backend now source = .ok l → P l) :
    ∀ l ∈ g.layers, P l := by
  obtain ⟨products, backend, now, events, rfl⟩ := h
  refine World.forall_layers_run ?_ hbuilt events
  intro l hl
  cases hl

end LayerAtlas
