import LayerAtlas.Proofs.CurrentTimes
import LayerAtlas.Proofs.Runs

namespace LayerAtlas

/-- The layers differ at most in when their metadata were asked for. -/
def Layer.SameData (l m : Layer) : Prop := ∃ t, m = { l with probedAt := t }

theorem Layer.SameData.refl (l : Layer) : l.SameData l := ⟨l.probedAt, rfl⟩

theorem Layer.SameData.name_eq {l m : Layer} (h : l.SameData m) : m.name = l.name := by
  obtain ⟨t, rfl⟩ := h
  rfl

def Outcome.anew (build : Source → Except BuildError Layer) (source : Source) : Outcome :=
  match build source with
  | .ok l => .built l
  | .error e => .failed e

def Catalog.refreshAnew (c : Catalog) (scanned : Except ScanError Scan)
    (build : Source → Except BuildError Layer) : Except ScanError RefreshSummary × Catalog :=
  match scanned with
  | .error e => (.error e, c)
  | .ok found =>
    let (summary, c) := c.publish (found.sources.map (Outcome.anew build))
    (.ok summary, c)

def Refreshed.anew (r : Refreshed) : Refreshed :=
  { r with answer := r.answer.map fun summary => { summary with reused := 0 } }

namespace Outcome

variable {build : Source → Except BuildError Layer} {source : Source} {g : Generation}
  {now : Instant}

theorem ofSource_of_reusable {l : Layer} (h : reusable? g now source = some l) :
    ofSource g build now source = carried l := by
  rw [ofSource, h]

theorem ofSource_of_not_reusable (h : reusable? g now source = none) :
    ofSource g build now source = anew build source := by
  rw [ofSource, h]
  rfl

theorem mem_of_reusable? {l : Layer} (h : reusable? g now source = some l) :
    l ∈ g.layers ∧ l.productFile = source.path ∧ l.modified = source.modified := by
  obtain ⟨hfind, hkept⟩ := Option.filter_eq_some_iff.1 h
  have hfound := List.find?_some hfind
  simp only [Bool.and_eq_true, decide_eq_true_eq] at hfound hkept
  exact ⟨List.mem_reverse.1 (List.mem_of_find?_eq_some hfind), hfound.2, hkept.2⟩

theorem isCarried_anew (build : Source → Except BuildError Layer) (source : Source) :
    (anew build source).isCarried = false := by
  rw [anew]
  split
  · rfl
  · rfl

/-- Both outcomes are layers that differ at most in when their metadata were asked for, or
neither is one. -/
structure SameLayer (o o' : Outcome) : Prop where
  forth : ∀ l, o.layer? = some l → ∃ m, o'.layer? = some m ∧ l.SameData m
  back : ∀ m, o'.layer? = some m → ∃ l, o.layer? = some l ∧ l.SameData m

theorem SameLayer.refl (o : Outcome) : o.SameLayer o :=
  ⟨fun l hl => ⟨l, hl, .refl l⟩, fun l hl => ⟨l, hl, .refl l⟩⟩

end Outcome

namespace Selection

variable {ls ms : List Layer} {l m : Layer} {s s' : Selection} {o o' : Outcome}

theorem names_eq_of_sameData (h : List.Forall₂ Layer.SameData ls ms) :
    ms.map Layer.name = ls.map Layer.name := by
  induction h with
  | nil => rfl
  | cons hl _ ih => rw [List.map_cons, List.map_cons, hl.name_eq, ih]

theorem insertLayer_sameData (hl : l.SameData m) (h : List.Forall₂ Layer.SameData ls ms) :
    List.Forall₂ Layer.SameData (insertLayer l ls) (insertLayer m ms) := by
  induction h with
  | nil => exact .cons hl .nil
  | cons hk hrest ih =>
    rw [insertLayer, insertLayer, hl.name_eq, hk.name_eq]
    split
    · exact .cons hl (.cons hk hrest)
    · split
      · exact .cons hk ih
      · exact .cons hk hrest

theorem taken_iff_of_sameData (hlayers : List.Forall₂ Layer.SameData ls ms) (h : l.SameData m) :
    (∃ k ∈ ms, k.name = m.name) ↔ ∃ k ∈ ls, k.name = l.name := by
  rw [← List.mem_map, ← List.mem_map, names_eq_of_sameData hlayers, h.name_eq]

theorem add_sameLayer (hlayers : List.Forall₂ Layer.SameData s.layers s'.layers)
    (hskipped : s'.skipped = s.skipped) (ho : o.SameLayer o') :
    List.Forall₂ Layer.SameData (s.add o).layers (s'.add o').layers ∧
    (s'.add o').skipped = (s.add o).skipped := by
  obtain ⟨l, hl, hfree, hls, hskip, _⟩ | ⟨htaken, hls, hskip, _⟩ := add_cases s o
  · obtain ⟨m, hm, hsame⟩ := ho.forth l hl
    obtain ⟨m', hm', hfree', hms, hskip', _⟩ | ⟨htaken', _, _, _⟩ := add_cases s' o'
    · cases hm.symm.trans hm'
      rw [hls, hms, hskip, hskip']
      exact ⟨insertLayer_sameData hsame hlayers, hskipped⟩
    · obtain ⟨k, hk, hname⟩ := (taken_iff_of_sameData hlayers hsame).1 (htaken' m hm)
      exact absurd hname (hfree k hk)
  · obtain ⟨m, hm, hfree', _, _, _⟩ | ⟨_, hms, hskip', _⟩ := add_cases s' o'
    · obtain ⟨l, hl, hsame⟩ := ho.back m hm
      obtain ⟨k, hk, hname⟩ := (taken_iff_of_sameData hlayers hsame).2 (htaken l hl)
      exact absurd hname (hfree' k hk)
    · rw [hls, hms, hskip, hskip', hskipped]
      exact ⟨hlayers, rfl⟩

theorem ofOutcomes_sameLayer {os os' : List Outcome}
    (h : List.Forall₂ Outcome.SameLayer os os') :
    List.Forall₂ Layer.SameData (ofOutcomes os).layers (ofOutcomes os').layers ∧
      (ofOutcomes os').skipped = (ofOutcomes os).skipped := by
  have hfold : ∀ s s' : Selection, List.Forall₂ Layer.SameData s.layers s'.layers →
    s'.skipped = s.skipped →
      List.Forall₂ Layer.SameData (os.foldl add s).layers (os'.foldl add s').layers ∧
        (os'.foldl add s').skipped = (os.foldl add s).skipped := by
    induction h with
    | nil =>
      intro s s' hlayers hskipped
      exact ⟨hlayers, hskipped⟩
    | cons ho _ ih =>
      intro s s' hlayers hskipped
      obtain ⟨hlayers, hskipped⟩ := add_sameLayer hlayers hskipped ho
      exact ih _ _ hlayers hskipped
  exact hfold {} {} .nil rfl

theorem reused_anew (build : Source → Except BuildError Layer) (sources : List Source) :
    (ofOutcomes (sources.map (Outcome.anew build))).reused = 0 := by
  rw [reused_ofOutcomes, List.countP_eq_zero]
  intro l hl
  obtain ⟨o, ho, _⟩ := (mem_ofOutcomes l).1 hl
  obtain ⟨source, _, rfl⟩ := List.mem_map.1 (List.mem_of_find?_eq_some ho)
  rw [ho, Option.any_some, Outcome.isCarried_anew]
  exact Bool.false_ne_true

end Selection

/-- The text of each definition file is that which its path and the time of its last change
determine. -/
def ProductTree.HasContents (settings : Settings)
    (contents : String → Option Int → Option String) (tree : ProductTree) : Prop :=
  ∀ found, scan settings.root settings.definitionSuffix tree.entry = .ok found →
    ∀ source ∈ found.sources, source.text = contents source.path source.modified

/-- The event leaves the contents of definition files and the answers of the backend as they
are. -/
def Event.Keeps (settings : Settings) (contents : String → Option Int → Option String)
    (answers : Backend) :
    Event → Prop
  | .products tree => tree.HasContents settings contents
  | .backend b => b = answers
  | .clock _ => True
  | .refresh => True

def Layer.MadeFrom (settings : Settings) (contents : String → Option Int → Option String)
    (answers : Backend) (l : Layer) : Prop :=
  ∃ (tree : ProductTree) (found : Scan) (source : Source) (t : Instant),
    tree.HasContents settings contents ∧
    scan settings.root settings.definitionSuffix tree.entry = .ok found ∧
    source ∈ found.sources ∧
    create settings answers t source = .ok l

namespace World

variable {settings : Settings} {contents : String → Option Int → Option String}
  {answers : Backend} {w v : World}

def stepAnew (settings : Settings) (w : World) : Event → World
  | .refresh =>
    let (answer, catalog) :=
      w.catalog.refreshAnew (w.scanned settings) (Layer.create settings w.backend w.now)
    { w with catalog, log := { scanned := w.scanned settings, answer } :: w.log }
  | event => w.step settings event

def runAnew (settings : Settings) (w : World) (events : List Event) : World :=
  events.foldl (stepAnew settings) w

/-- The surroundings keep to contents and answers, and so did those of the published layers. -/
structure Steady (settings : Settings) (contents : String → Option Int → Option String)
    (answers : Backend) (w : World) : Prop where
  products : w.products.HasContents settings contents
  backend : w.backend = answers
  layers : ∀ l ∈ w.catalog.current.layers, l.MadeFrom settings contents answers

/-- The second world, in which no layer was carried over, shows the same as the first. -/
structure Matches (w v : World) : Prop where
  products : v.products = w.products
  backend : v.backend = w.backend
  now : v.now = w.now
  number : v.catalog.current.number = w.catalog.current.number
  next : v.catalog.next = w.catalog.next
  layers : List.Forall₂ Layer.SameData w.catalog.current.layers v.catalog.current.layers
  log : v.log = w.log.map Refreshed.anew

theorem Steady.sameLayer (h : w.Steady settings contents answers) {found : Scan}
    (hscan : w.scanned settings = .ok found) {source : Source}
    (hsource : source ∈ found.sources) :
    (Outcome.ofSource w.catalog.current (Layer.create settings w.backend w.now) w.now
      source).SameLayer (.anew (Layer.create settings w.backend w.now) source) := by
  cases hreusable : Outcome.reusable? w.catalog.current w.now source with
  | none =>
    rw [Outcome.ofSource_of_not_reusable hreusable]
    exact .refl _
  | some l =>
    rw [Outcome.ofSource_of_reusable hreusable]
    obtain ⟨hmem, hpath, hmodified⟩ := Outcome.mem_of_reusable? hreusable
    obtain ⟨tree, found', source', t, hcontents, hscan', hsource', hcreate⟩ := h.layers l hmem
    have hpaths : source'.path = source.path :=
      (Layer.productFile_of_create hcreate).symm.trans hpath
    have htimes : source'.modified = source.modified :=
      (Layer.modified_of_create hcreate).symm.trans hmodified
    have htexts : source'.text = source.text := by
      rw [hcontents found' hscan' source' hsource', h.products found hscan source hsource,
        hpaths, htimes]
    have hsame : source' = source :=
      source_eq_of_path tree.proper w.products.proper hscan' hscan hsource' hsource
        hpaths htimes htexts
    have hbuild := Layer.create_later hcreate w.now
    rw [hsame, ← h.backend] at hbuild
    rw [Outcome.anew, hbuild]
    constructor
    · rintro _ ⟨⟩
      exact ⟨_, rfl, w.now, rfl⟩
    · rintro _ ⟨⟩
      exact ⟨l, rfl, w.now, rfl⟩

theorem Steady.step (h : w.Steady settings contents answers) {event : Event}
    (hevent : event.Keeps settings contents answers) :
    (w.step settings event).Steady settings contents answers := by
  cases event with
  | products tree => exact ⟨hevent, h.backend, h.layers⟩
  | backend b => exact ⟨h.products, hevent, h.layers⟩
  | clock now => exact ⟨h.products, h.backend, h.layers⟩
  | refresh =>
    refine ⟨?_, ?_, ?_⟩
    · exact h.products
    · exact h.backend
    · refine forall_layers_refresh h.layers ?_
      intro found hscan source hsource l hcreate
      rw [h.backend] at hcreate
      exact ⟨w.products, found, source, w.now, h.products, hscan, hsource, hcreate⟩

theorem Matches.refresh (h : w.Matches v) (hsteady : w.Steady settings contents answers) :
    (w.step settings .refresh).Matches (v.stepAnew settings .refresh) := by
  have hscanned : v.scanned settings = w.scanned settings := by
    rw [scanned, scanned, h.products]
  have hbuild :
      Layer.create settings v.backend v.now = Layer.create settings w.backend w.now := by
    rw [h.backend, h.now]
  rw [stepAnew, hscanned, hbuild, step, refreshed]
  cases hscan : w.scanned settings with
  | error e =>
    refine ⟨h.products, h.backend, h.now, h.number, h.next, h.layers, ?_⟩
    exact congrArg (Refreshed.mk (.error e) (.error e) :: ·) h.log
  | ok found =>
    have houtcomes : List.Forall₂ Outcome.SameLayer
        (found.sources.map
          (Outcome.ofSource w.catalog.current (Layer.create settings w.backend w.now) w.now))
        (found.sources.map (Outcome.anew (Layer.create settings w.backend w.now))) :=
      List.forall₂_map_left_iff.2
        (List.forall₂_map_right_iff.2
          (List.forall₂_same.2 fun source hsource => hsteady.sameLayer hscan hsource))
    obtain ⟨hlayers, hskipped⟩ := Selection.ofOutcomes_sameLayer houtcomes
    refine ⟨h.products, h.backend, h.now, h.next, congrArg (· + 1) h.next, hlayers, ?_⟩
    have hsummary :
        (v.catalog.publish
          (found.sources.map (Outcome.anew (Layer.create settings w.backend w.now)))).1 =
          { (w.catalog.publish (found.sources.map (Outcome.ofSource w.catalog.current
              (Layer.create settings w.backend w.now) w.now))).1 with reused := 0 } := by
      simp only [Catalog.publish, h.next, hlayers.length_eq, hskipped, Selection.reused_anew]
    exact congrArg₂ (fun summary log => Refreshed.mk (.ok found) (.ok summary) :: log)
      hsummary h.log

theorem Matches.step (h : w.Matches v) (hsteady : w.Steady settings contents answers)
    (event : Event) :
    (w.step settings event).Matches (v.stepAnew settings event) := by
  cases event with
  | products tree => exact ⟨rfl, h.backend, h.now, h.number, h.next, h.layers, h.log⟩
  | backend b => exact ⟨h.products, rfl, h.now, h.number, h.next, h.layers, h.log⟩
  | clock now => exact ⟨h.products, h.backend, rfl, h.number, h.next, h.layers, h.log⟩
  | refresh => exact h.refresh hsteady

theorem Matches.run (h : w.Matches v) (hsteady : w.Steady settings contents answers)
    {events : List Event} (hevents : ∀ e ∈ events, e.Keeps settings contents answers) :
    (w.run settings events).Matches (v.runAnew settings events) := by
  induction events generalizing w v with
  | nil => exact h
  | cons event events ih =>
    exact ih (h.step hsteady event) (hsteady.step (hevents event List.mem_cons_self))
      fun e he => hevents e (List.mem_cons_of_mem event he)

/-- After every run in which the contents of definition files are determined by their paths and
times of the last change, and the backend answers the same, the published names, the layers but
for when their metadata were asked for, and all reports but for the count of reused layers are
those of a catalog that builds all layers at every refresh. -/
theorem run_matches_runAnew {products : ProductTree} {now : Instant} {events : List Event}
    (hproducts : products.HasContents settings contents)
    (hevents : ∀ e ∈ events, e.Keeps settings contents answers) :
    let w := run settings { products, backend := answers, now } events
    let v := runAnew settings { products, backend := answers, now } events
    v.catalog.current.names = w.catalog.current.names ∧
      List.Forall₂ Layer.SameData w.catalog.current.layers v.catalog.current.layers ∧
      v.log = w.log.map Refreshed.anew := by
  intro w v
  have hnew :
      Matches (World.mk products answers now {} []) (World.mk products answers now {} []) :=
    ⟨rfl, rfl, rfl, rfl, rfl, .nil, rfl⟩
  have hsteady : Steady settings contents answers (World.mk products answers now {} []) := by
    refine ⟨hproducts, rfl, ?_⟩
    intro l hl
    cases hl
  have hmatches : w.Matches v := hnew.run hsteady hevents
  exact ⟨Selection.names_eq_of_sameData hmatches.layers, hmatches.layers, hmatches.log⟩

end World

namespace IceCharts

def later : Instant := .ofFirstDay 43260 0

def twoRefreshes : List Event := [.refresh, .clock later, .refresh]

theorem hasContents (i : TimeInterval) :
    (world i).products.HasContents {} fun _ _ => file.text := by
  intro found hfound s hs
  cases (scanned_world i).symm.trans hfound
  rw [List.mem_singleton.1 hs]
  rfl

theorem reusable?_later (i : TimeInterval) :
    Outcome.reusable? ((world i).run {} [.refresh]).catalog.current later source =
      some (layer i) := by
  rw [Outcome.reusable?, layers_refresh]
  rfl

theorem reused_twoRefreshes (i : TimeInterval) :
    ∃ r summary, ((world i).run {} twoRefreshes).log.head? = some r ∧ r.answer = .ok summary ∧
      summary.reused = 1 := by
  let first := (world i).run {} [.refresh]
  let second : World := { first with now := later }
  change ∃ r summary, (second.step {} .refresh).log.head? = some r ∧ _
  obtain ⟨e, he, _⟩ | ⟨found, summary, catalog, hfound, hpublish, hstep⟩ :=
    World.step_refresh_cases {} second
  · cases (scanned_world i).symm.trans he
  · cases (scanned_world i).symm.trans hfound
    rw [hstep]
    refine ⟨_, summary, rfl, rfl, ?_⟩
    change Catalog.publish first.catalog
      [Outcome.ofSource first.catalog.current _ later source] =
        (summary, catalog) at hpublish
    rw [Outcome.ofSource_of_reusable (reusable?_later i)] at hpublish
    cases hpublish
    rfl

end IceCharts

open IceCharts in
/-- The second refresh carries the chart over, or builds it anew, with the same result. -/
theorem World.run_matches_iceCharts :
    let w := run {} (world threeHours) twoRefreshes
    let v := runAnew {} (world threeHours) twoRefreshes
    ((world threeHours).products.HasContents {} fun _ _ => file.text) ∧
      (∀ e ∈ twoRefreshes, e.Keeps {} (fun _ _ => file.text) (world threeHours).backend) ∧
      (∃ r summary, w.log.head? = some r ∧ r.answer = .ok summary ∧ summary.reused = 1) ∧
      v.catalog.current.names = w.catalog.current.names ∧
      List.Forall₂ Layer.SameData w.catalog.current.layers v.catalog.current.layers ∧
      v.log = w.log.map Refreshed.anew := by
  intro w v
  have hevents :
      ∀ e ∈ twoRefreshes, e.Keeps {} (fun _ _ => file.text) (world threeHours).backend := by
    intro e he
    simp only [twoRefreshes, List.mem_cons, List.not_mem_nil, or_false] at he
    rcases he with rfl | rfl | rfl
    · trivial
    · trivial
    · trivial
  exact ⟨hasContents threeHours, hevents, reused_twoRefreshes threeHours,
    run_matches_runAnew (hasContents threeHours) hevents⟩

end LayerAtlas
