import LayerAtlas.Proofs.DefinitionFiles
import LayerAtlas.Proofs.Durations
import LayerAtlas.Proofs.KeptLayers
import LayerAtlas.Proofs.PrintedValues

namespace LayerAtlas

open Outcome (FirstAt)

namespace ProductFile

/-- The names on the way to the file have no colon, and the definition that it holds, if any,
has no name. -/
structure NamedByPlace (suffix : String) (p : ProductFile) : Prop where
  customer : ':' ∉ p.customer.toList
  directories : ∀ name ∈ p.directories, ':' ∉ name.toList
  stem : ∀ stem, stem ++ suffix = p.name → ':' ∉ stem.toList
  unnamed : ∀ text d, p.file.text = some text → Definition.ofText? text = some d → d.name = none

variable {root suffix : String} {p q : ProductFile} {s t : Source}

theorem Describes.defaultName (h : p.Describes root suffix s) :
    s.defaultName = String.intercalate ":" (p.customer :: p.directories ++ [s.stem]) := by
  rw [String.intercalate_append_of_ne_nil (List.cons_ne_nil _ _) (List.cons_ne_nil _ _),
    String.intercalate_singleton, ← h.nameSpace]
  rfl

theorem NamedByPlace.not_mem (h : p.NamedByPlace suffix) (hs : p.Describes root suffix s) :
    ∀ name ∈ p.customer :: p.directories ++ [s.stem], ':' ∉ name.toList := by
  rw [List.forall_mem_append, List.forall_mem_cons, List.forall_mem_singleton]
  exact ⟨⟨h.customer, h.directories⟩, h.stem s.stem hs.stem⟩

theorem NamedByPlace.defaultName_eq_iff (hp : p.NamedByPlace suffix)
    (hq : q.NamedByPlace suffix) (hs : p.Describes root suffix s)
    (ht : q.Describes root suffix t) :
    s.defaultName = t.defaultName ↔ p.steps = q.steps := by
  have hsteps : p.steps = p.customer :: p.directories ++ [s.stem ++ suffix] := by
    rw [hs.stem]
    rfl
  have hsteps' : q.steps = q.customer :: q.directories ++ [t.stem ++ suffix] := by
    rw [ht.stem]
    rfl
  rw [hs.defaultName, ht.defaultName,
    Text.intercalate_inj rfl (List.concat_ne_nil _ _) (List.concat_ne_nil _ _) (hp.not_mem hs)
    (hq.not_mem ht), hsteps, hsteps', List.append_singleton_inj, List.append_singleton_inj,
    String.append_left_inj]

theorem Describes.path_eq_iff (hs : p.Describes root suffix s) (ht : q.Describes root suffix t)
    (hp : ∀ name ∈ p.steps, Path.IsName name) (hq : ∀ name ∈ q.steps, Path.IsName name) :
    s.path = t.path ↔ p.steps = q.steps := by
  rw [hs.path, ht.path]
  apply Iff.intro
  · exact Scan.pathOf_inj (Scan.rooted_customers root) hp hq (List.cons_ne_nil _ _)
      (List.cons_ne_nil _ _)
  · intro h
    rw [h]

end ProductFile

def ProductTree.NamesByPlace (suffix : String) (tree : ProductTree) : Prop :=
  ∀ p : ProductFile, p.IsDefinition suffix tree.entry → p.NamedByPlace suffix

def Source.NamedByPlace (root suffix : String) (s : Source) : Prop :=
  ∃ p : ProductFile, p.NamedByPlace suffix ∧ p.Describes root suffix s ∧
    ∀ name ∈ p.steps, Path.IsName name

variable {root suffix : String} {tree : ProductTree} {found : Scan} {s t : Source} {l : Layer}

theorem exists_definition_of_mem_sources {tree : Entry} (htree : tree.Proper)
    (h : scan root suffix tree = .ok found) (hs : s ∈ found.sources) :
    ∃ p : ProductFile, p.IsDefinition suffix tree ∧ p.Describes root suffix s ∧
      ∀ name ∈ p.steps, Path.IsName name := by
  obtain ⟨customers, ⟨place, file⟩, hcustomers, hleaf, hsource⟩ :=
    exists_leaf_of_mem_sources h hs
  obtain ⟨f, rfl⟩ := Scan.exists_file_of_source? hsource
  obtain ⟨customer, rest, rfl, hne, _⟩ := (Scan.mk_mem_ofCustomers_iff htree hcustomers).1 hleaf
  obtain ⟨directories, name, rfl⟩ := (List.eq_nil_or_concat' rest).resolve_left hne
  have hdefinition : ProductFile.IsDefinition suffix tree ⟨customer, directories, name, f⟩ :=
    ProductFile.isDefinition_of_mem htree hcustomers hleaf (Option.isSome_of_eq_some hsource)
  exact ⟨_, hdefinition, ProductFile.describes_of_source? hsource,
    Scan.isName_of_mem_place (htree.directory? hcustomers) hleaf⟩

theorem ProductTree.NamesByPlace.sources (h : tree.NamesByPlace suffix)
    (hscan : scan root suffix tree.entry = .ok found) :
    ∀ s ∈ found.sources, s.NamedByPlace root suffix := by
  intro s hs
  obtain ⟨p, hp, hdescribes, hnames⟩ := exists_definition_of_mem_sources tree.proper hscan hs
  exact ⟨p, h p hp, hdescribes, hnames⟩

namespace Source

theorem NamedByPlace.defaultName_eq_iff (hs : s.NamedByPlace root suffix)
    (ht : t.NamedByPlace root suffix) :
    s.defaultName = t.defaultName ↔ s.path = t.path := by
  obtain ⟨p, hp, hpdescribes, hpnames⟩ := hs
  obtain ⟨q, hq, hqdescribes, hqnames⟩ := ht
  rw [hp.defaultName_eq_iff hq hpdescribes hqdescribes,
    hpdescribes.path_eq_iff hqdescribes hpnames hqnames]

theorem NamedByPlace.name_of_create {settings : Settings} {backend : Backend} {now : Instant}
    (hs : s.NamedByPlace root suffix) (h : Layer.create settings backend now s = .ok l) :
    l.name = s.defaultName := by
  obtain ⟨p, hp, hdescribes, _⟩ := hs
  obtain ⟨d, kind, metadata, hdefinition, _, hbuild⟩ := Layer.create_eq_ok.1 h
  obtain ⟨_, _, _, _, rfl⟩ := Layer.build_eq_ok.1 hbuild
  obtain ⟨text, htext, hread⟩ := Layer.exists_text_of_definitionOf hdefinition
  have hunnamed : d.name = none := hp.unnamed text d (hdescribes.text ▸ htext) hread
  change Layer.nameOf s d = _
  rw [Layer.nameOf, hunnamed, Option.getD_none]

theorem NamedByPlace.nameSpace_eq (hs : s.NamedByPlace root suffix)
    (h : l.name = s.defaultName) :
    l.nameSpace = s.nameSpace := by
  obtain ⟨p, hp, hdescribes, _⟩ := hs
  have hname : l.name.toList = s.nameSpace.toList ++ ':' :: s.stem.toList := by
    rw [h, defaultName, String.toList_append, String.toList_append, List.append_assoc]
    rfl
  have hbefore :
      Duration.beforeLast ':' (s.nameSpace.toList ++ ':' :: s.stem.toList) =
        some s.nameSpace.toList :=
    Duration.beforeLast_append (hp.stem s.stem hdescribes.stem)
  rw [← hname, Duration.beforeLast] at hbefore
  obtain ⟨hcolon, hbefore⟩ := Option.ite_none_right_eq_some.1 hbefore
  rw [Layer.nameSpace, if_pos hcolon, Option.some.inj hbefore, String.ofList_toList]

end Source

theorem ProductTree.NamesByPlace.defaultNames_nodup (h : tree.NamesByPlace suffix)
    (hscan : scan root suffix tree.entry = .ok found) :
    (found.sources.map Source.defaultName).Nodup := by
  have hpaths := scan_paths_nodup tree.proper hscan
  rw [List.Nodup, List.pairwise_map] at hpaths ⊢
  apply hpaths.imp_of_mem
  intro s t hs ht hne hname
  exact hne (((h.sources hscan s hs).defaultName_eq_iff (h.sources hscan t ht)).1 hname)

namespace World

variable {settings : Settings} {w : World} {source : Source}

structure Fails (settings : Settings) (w : World) (source : Source) (e : BuildError) :
    Prop where
  outcome : w.outcome settings source = .failed e
  created : Layer.create settings w.backend w.now source = .error e

theorem exists_fails (h : (w.outcome settings source).layer? = none) :
    ∃ e, w.Fails settings source e := by
  obtain ⟨l, _, houtcome⟩ | ⟨l, _, houtcome⟩ | ⟨e, hcreate, houtcome⟩ :=
    outcome_cases settings w source
  · rw [houtcome] at h
    cases h
  · rw [houtcome] at h
    cases h
  · exact ⟨e, houtcome, hcreate⟩

theorem lastScan?_refresh (hscan : w.scanned settings = .ok found) :
    (w.step settings .refresh).lastScan? = some found := by
  rcases step_refresh_cases settings w with ⟨e, he, _⟩ | ⟨found', _, _, hfound, _, hstep⟩
  · cases hscan.symm.trans he
  · cases hscan.symm.trans hfound
    rw [hstep]
    rfl

/-- The tree names layers by their places, and so did the one of the generation that is
published. -/
structure NamedByPlace (settings : Settings) (w : World) : Prop where
  products : w.products.NamesByPlace settings.definitionSuffix
  layers : ∀ l ∈ w.catalog.current.layers, ∃ found, w.lastScan? = some found ∧
    ∃ source ∈ found.sources,
    source.NamedByPlace settings.root settings.definitionSuffix ∧ source.path = l.productFile ∧
      l.name = source.defaultName

theorem NamedByPlace.of_layer? (h : w.NamedByPlace settings) (hsound : w.Sound)
    (hscan : w.scanned settings = .ok found) (hsource : source ∈ found.sources)
    (hl : (w.outcome settings source).layer? = some l) :
    source.path = l.productFile ∧ l.name = source.defaultName := by
  have hnamed := h.products.sources hscan source hsource
  rcases hsound.builds_or_keeps hl with hbuilds | hkeeps
  · exact ⟨hbuilds.path.symm, hnamed.name_of_create hbuilds.created⟩
  · -- the layer that is kept was named after a source of the same path
    obtain ⟨_, _, previous, _, hprevious, hpath, hname⟩ := h.layers l hkeeps.published
    have hsame : previous.defaultName = source.defaultName :=
      (hprevious.defaultName_eq_iff hnamed).2 (hpath.trans hkeeps.path)
    exact ⟨hkeeps.path.symm, hname.trans hsame⟩

theorem NamedByPlace.apart (h : w.NamedByPlace settings) (hsound : w.Sound)
    (hscan : w.scanned settings = .ok found) :
    Outcome.Apart (found.sources.map (w.outcome settings)) := by
  have hnames := h.products.defaultNames_nodup hscan
  rw [List.Nodup, List.pairwise_map] at hnames
  rw [Outcome.Apart, List.pairwise_map]
  apply hnames.imp_of_mem
  intro s t hs ht hne l m hl hm hname
  obtain ⟨_, hlname⟩ := h.of_layer? hsound hscan hs hl
  obtain ⟨_, hmname⟩ := h.of_layer? hsound hscan ht hm
  exact hne (hlname.symm.trans (hname.trans hmname))

theorem NamedByPlace.refresh (h : w.NamedByPlace settings) (hsound : w.Sound) :
    (w.step settings .refresh).NamedByPlace settings := by
  rcases step_refresh_cases settings w with ⟨e, _, hstep⟩ | ⟨found, _, _, hscan, _, hstep⟩
  · rw [hstep]
    exact ⟨h.products, h.layers⟩
  · constructor
    · rw [hstep]
      exact h.products
    · intro l hl
      obtain ⟨i, hfirst⟩ := (mem_layers_refresh_iff hscan).1 hl
      obtain ⟨source, hi, hlayer⟩ := exists_source_of_firstAt hfirst
      have hsource := List.mem_of_getElem? hi
      refine ⟨found, lastScan?_refresh hscan, source, hsource,
        h.products.sources hscan source hsource, ?_⟩
      exact h.of_layer? hsound hscan hsource hlayer

theorem NamedByPlace.step (h : w.NamedByPlace settings) (hsound : w.Sound) {event : Event}
    (hevent : ∀ tree, event = .products tree → tree.NamesByPlace settings.definitionSuffix) :
    (w.step settings event).NamedByPlace settings := by
  cases event with
  | products tree => exact ⟨hevent tree rfl, h.layers⟩
  | backend backend => exact ⟨h.products, h.layers⟩
  | clock now => exact ⟨h.products, h.layers⟩
  | refresh => exact h.refresh hsound

theorem NamedByPlace.run (h : w.NamedByPlace settings) (hsound : w.Sound) {events : List Event}
    (hevents : ∀ tree, .products tree ∈ events → tree.NamesByPlace settings.definitionSuffix) :
    (w.run settings events).NamedByPlace settings := by
  induction events generalizing w with
  | nil => exact h
  | cons event events ih =>
    refine ih (h.step hsound ?_) (hsound.step event) ?_
    · rintro tree rfl
      exact hevents tree List.mem_cons_self
    · intro tree htree
      exact hevents tree (List.mem_cons_of_mem event htree)

theorem NamedByPlace.firstAt_iff (h : w.NamedByPlace settings) (hsound : w.Sound)
    (hscan : w.scanned settings = .ok found) {i : Nat} (hi : found.sources[i]? = some source) :
    FirstAt (found.sources.map (w.outcome settings)) i l ↔
    (w.outcome settings source).layer? = some l := by
  rw [(h.apart hsound hscan).firstAt_iff, List.getElem?_map, hi, Option.map_some]
  simp only [Option.some.injEq, exists_eq_left']

theorem NamedByPlace.skips_iff (h : w.NamedByPlace settings) (hsound : w.Sound)
    (hscan : w.scanned settings = .ok found) {i : Nat} (hi : found.sources[i]? = some source) :
    w.Skips settings found i ↔ ∃ e, w.Fails settings source e := by
  simp only [Skips, h.firstAt_iff hsound hscan hi]
  apply Iff.intro
  · intro hnone
    exact exists_fails (Option.eq_none_iff_forall_ne_some.2 hnone)
  · rintro ⟨e, hfails⟩ l hl
    rw [hfails.outcome] at hl
    cases hl

theorem NamedByPlace.find?_refresh (h : w.NamedByPlace settings) (hsound : w.Sound)
    (hscan : w.scanned settings = .ok found) (hsource : source ∈ found.sources)
    (hl : (w.outcome settings source).layer? = some l) :
    (w.step settings .refresh).catalog.current.find? source.defaultName = some l := by
  obtain ⟨i, hi⟩ := List.mem_iff_getElem?.1 hsource
  have hfirst : FirstAt (found.sources.map (w.outcome settings)) i l :=
    (h.firstAt_iff hsound hscan hi).2 hl
  obtain ⟨_, hname⟩ := h.of_layer? hsound hscan hsource hl
  exact Generation.find?_eq_some_iff.2 ⟨(mem_layers_refresh_iff hscan).2 ⟨i, hfirst⟩, hname⟩

/-- Where every product tree names layers by their places, the default names of what is found
differ from each other after every run. So a refresh skips exactly the sources whose layers
cannot be built, and publishes all others under their default names, and the name of a published
layer gives back the directories of its definition. -/
theorem run_names_by_place (settings : Settings) (products : ProductTree) (backend : Backend)
    (now : Instant) (events : List Event)
    (hproducts : products.NamesByPlace settings.definitionSuffix)
    (hevents : ∀ tree, .products tree ∈ events → tree.NamesByPlace settings.definitionSuffix) :
    let w := run settings { products, backend, now } events
    (∀ found, w.scanned settings = .ok found →
      (found.sources.map Source.defaultName).Nodup ∧
      (∀ i source, found.sources[i]? = some source →
        (w.Skips settings found i ↔ ∃ e, w.Fails settings source e)) ∧
      (∀ source ∈ found.sources, ∀ l, (w.outcome settings source).layer? = some l →
        (w.step settings .refresh).catalog.current.find? source.defaultName = some l) ∧
      ∃ summary, (w.refreshed settings).1 = .ok summary ∧
        summary.skipped =
          found.sources.countP fun source => (w.outcome settings source).layer? = none) ∧
    ∀ l ∈ w.catalog.current.layers, ∃ found, w.lastScan? = some found ∧
      ∃ source ∈ found.sources,
        source.path = l.productFile ∧ l.name = source.defaultName ∧
        l.nameSpace = source.nameSpace := by
  intro w
  have hsound : w.Sound := (sound_new products backend now).run events
  have hnew : NamedByPlace settings { products, backend, now } :=
    ⟨hproducts, List.forall_mem_nil _⟩
  have hnamed : w.NamedByPlace settings := hnew.run (sound_new products backend now) hevents
  constructor
  · intro found hscan
    refine ⟨hnamed.products.defaultNames_nodup hscan, ?_, ?_, ?_⟩
    · intro i source hi
      exact hnamed.skips_iff hsound hscan hi
    · intro source hsource l hl
      exact hnamed.find?_refresh hsound hscan hsource hl
    · have hskipped := Selection.skipped_of_apart (hnamed.apart hsound hscan)
      rw [List.countP_map] at hskipped
      refine ⟨_, by rw [refreshed, hscan]; rfl, hskipped⟩
  · intro l hl
    obtain ⟨found, hfound, source, hsource, hplace, hpath, hname⟩ := hnamed.layers l hl
    exact ⟨found, hfound, source, hsource, hpath, hname, hplace.nameSpace_eq hname⟩

end World

theorem ProductTree.namesByPlace_of_leaves {customers : List (String × Entry)}
    {files : List ProductFile} (hcustomers : tree.entry.directory? "customers" = some customers)
    (hleaves : Scan.ofCustomers customers = files.map ProductFile.leaf)
    (hfiles : ∀ p ∈ files, p.NamedByPlace suffix) : tree.NamesByPlace suffix := by
  intro p hp
  have hleaf : p.leaf ∈ Scan.ofCustomers customers :=
    (Scan.mk_mem_ofCustomers_iff tree.proper hcustomers).2
      ⟨p.customer, _, rfl, List.concat_ne_nil _ _, hp.held, hp.shown⟩
  rw [hleaves, List.mem_map_of_injective ProductFile.leaf_injective] at hleaf
  exact hfiles p hleaf

namespace SeaIce

def text : String := "\x7b\"layer_type\":\"icemap\"\x7d"

def definition : Definition := { layerType := some "icemap" }

def metadata : Metadata := { bbox := .world, times := .none, levels := none }

def world : World := .ofDefinition text metadata IceCharts.noon

def file (text : String) : FileState := { modified := 1, text := some text }

def charts (direct nested : String) : Entry :=
  .directory [("products", .directory [
    ("sea", .directory [("layer.json", .file (file nested))]),
    ("layer.json", .file (file direct))])]

/-- The first definition of the second customer cannot be read. -/
def customers : List (String × Entry) :=
  [("south", charts "\x7b" text), ("north", charts text text)]

def chart (customer : String) (directories : List String) (text : String) : ProductFile where
  customer
  directories
  name := "layer.json"
  file := file text

def files : List ProductFile :=
  [chart "north" [] text, chart "north" ["sea"] text, chart "south" [] "\x7b",
    chart "south" ["sea"] text]

def source (p : ProductFile) : Source where
  customer := p.customer
  nameSpace := String.intercalate ":" (p.customer :: p.directories)
  stem := "layer"
  path := Scan.pathOf (joinPath "config/wms" "customers") p.steps
  modified := some p.file.modified
  text := p.file.text

def layer (s : Source) : Layer :=
  .assemble Reference.defaults s definition .vectorStore metadata IceCharts.noon none

theorem proper_charts (direct nested : String) : (charts direct nested).Proper := by
  have hsea : (Entry.directory [("layer.json", .file (file nested))]).Proper :=
    ChartArchive.proper_single Path.isName_layer (.file _)
  have hdistinct : ["sea", "layer.json"].Nodup := by decide
  have hname : Path.IsName "sea" := ⟨by decide, by decide⟩
  refine ChartArchive.proper_single ⟨by decide, by decide⟩ (.directory hdistinct ?_ ?_)
  · exact List.forall_mem_cons.2 ⟨hname, List.forall_mem_singleton.2 Path.isName_layer⟩
  · exact List.forall_mem_cons.2 ⟨hsea, List.forall_mem_singleton.2 (.file _)⟩

def coasts : ProductTree where
  entry := .directory [("customers", .directory customers)]
  proper := by
    refine ChartArchive.proper_single ⟨by decide, by decide⟩ (.directory (by decide) ?_ ?_)
    · exact List.forall_mem_cons.2
        ⟨⟨by decide, by decide⟩, List.forall_mem_singleton.2 Path.isName_north⟩
    · exact List.forall_mem_cons.2
        ⟨proper_charts _ _, List.forall_mem_singleton.2 (proper_charts _ _)⟩

theorem ofCustomer_charts {customer : String} (hshown : Scan.isHidden customer = false)
    (direct nested : String) :
    Scan.ofCustomer customer (charts direct nested) =
      [(chart customer [] direct).leaf, (chart customer ["sea"] nested).leaf] := by
  have hnames : Scan.isHidden "sea" = false ∧ Scan.isHidden "layer.json" = false := by decide
  have hafter : ¬ "sea" ≤ "layer.json" := by decide
  simp [Scan.ofCustomer, hshown, charts, Entry.child?, Entry.entries?, Entry.isDirectory,
    Scan.branches, Scan.leaves, Entry.isBroken, hnames, List.mergeSort,
    List.MergeSort.Internal.splitInTwo, hafter, ProductFile.leaf, ProductFile.steps, chart]

theorem ofCustomers_customers : Scan.ofCustomers customers = files.map ProductFile.leaf := by
  have hafter : ¬ "south" ≤ "north" := by decide
  have hshown : Scan.isHidden "north" = false ∧ Scan.isHidden "south" = false := by decide
  simp [Scan.ofCustomers, customers, List.mergeSort, List.MergeSort.Internal.splitInTwo, hafter,
    ofCustomer_charts hshown.1, ofCustomer_charts hshown.2, files]

theorem ofText?_text : Definition.ofText? text = some definition := by cbv

theorem ofText?_malformed : Definition.ofText? "\x7b" = none := by cbv

theorem namedByPlace_chart {customer : String} {directories : List String} {text : String}
    (hnames : ∀ name ∈ customer :: directories, ':' ∉ name.toList)
    (hunnamed : ∀ d, Definition.ofText? text = some d → d.name = none) :
    (chart customer directories text).NamedByPlace ".json" := by
  obtain ⟨hcustomer, hdirectories⟩ := List.forall_mem_cons.1 hnames
  constructor
  case customer => exact hcustomer
  case directories => exact hdirectories
  case stem =>
    intro stem hstem
    cases (String.append_left_inj ".json").1
      (show stem ++ ".json" = "layer" ++ ".json" from hstem)
    decide
  case unnamed =>
    rintro _ d ⟨⟩ hread
    exact hunnamed d hread

theorem unnamed_text (d : Definition) (hread : Definition.ofText? text = some d) :
    d.name = none := by
  cases ofText?_text.symm.trans hread
  rfl

theorem unnamed_malformed (d : Definition) (hread : Definition.ofText? "\x7b" = some d) :
    d.name = none := by
  cases ofText?_malformed.symm.trans hread

theorem namesByPlace_coasts : coasts.NamesByPlace ".json" := by
  apply ProductTree.namesByPlace_of_leaves rfl ofCustomers_customers
  simp only [files, List.forall_mem_cons, List.not_mem_nil, false_implies,
    implies_true, and_true]
  exact ⟨namedByPlace_chart (by decide) unnamed_text,
    namedByPlace_chart (by decide) unnamed_text,
    namedByPlace_chart (by decide) unnamed_malformed,
    namedByPlace_chart (by decide) unnamed_text⟩

theorem namesByPlace_products : world.products.NamesByPlace ".json" := by
  have hleaves :
      Scan.ofCustomers
        [("north", .directory [("products", .directory [("layer.json", .file (file text))])])] =
          [chart "north" [] text].map ProductFile.leaf := by
    have hshown :
        Scan.isHidden "north" = false ∧ Scan.isHidden "layer.json" = false := by decide
    simp [Scan.ofCustomers, Scan.ofCustomer, Entry.child?, Entry.entries?, Entry.isDirectory,
      Scan.branches, Scan.leaves, hshown, ProductFile.leaf, ProductFile.steps, chart]
  apply ProductTree.namesByPlace_of_leaves rfl hleaves
  exact List.forall_mem_singleton.2 (namedByPlace_chart (by decide) unnamed_text)

theorem scan_coasts : scan "config/wms" ".json" coasts.entry =
    .ok { sources := files.map source, broken := [] } := by
  have hcustomers : coasts.entry.directory? "customers" = some customers := rfl
  rw [scan_of_directory? hcustomers, ofCustomers_customers]
  rfl

theorem create_eq_ok {s : Source} (h : s.text = some text) :
    Layer.create {} world.backend IceCharts.noon s = .ok (layer s) := by
  have hdefinition : Layer.definitionOf {} s = .ok (definition, .vectorStore) := by
    rw [Layer.definitionOf, h]
    simp only [ofText?_text]
    rfl
  have hbuild :
      Layer.build Reference.defaults s definition .vectorStore metadata IceCharts.noon =
        .ok (layer s) := Layer.build_eq_ok.2 ⟨by decide, none, rfl, .inr (.inl rfl), rfl⟩
  exact Layer.create_eq_ok.2 ⟨definition, .vectorStore, metadata, hdefinition, rfl, hbuild⟩

theorem create_eq_error {s : Source} (h : s.text = some "\x7b") :
    Layer.create {} world.backend IceCharts.noon s =
      .error (.definition (.malformed s.path)) := by
  rw [Layer.create, Layer.definitionOf, h]
  simp only [ofText?_malformed]

theorem layers_refresh :
    (world.run {} [.refresh]).catalog.current.layers = [layer (.ofDefinition text)] :=
  World.layers_ofDefinition rfl rfl ofText?_text rfl
    (Layer.build_eq_ok.2 ⟨by decide, none, rfl, .inr (.inl rfl), rfl⟩)

theorem outcome_refresh (s : Source) :
    (world.run {} [.refresh, .products coasts]).outcome {} s =
      .anew (Layer.create {} world.backend IceCharts.noon) s := by
  apply Outcome.ofSource_of_not_reusable
  change Outcome.reusable? (world.run {} [.refresh]).catalog.current IceCharts.noon s = none
  rw [Outcome.reusable?, layers_refresh]
  rfl

theorem outcome_text {s : Source} (h : s.text = some text) :
    (world.run {} [.refresh, .products coasts]).outcome {} s = .built (layer s) := by
  rw [outcome_refresh, Outcome.anew, create_eq_ok h]

theorem outcome_malformed {s : Source} (h : s.text = some "\x7b") :
    (world.run {} [.refresh, .products coasts]).outcome {} s =
      .failed (.definition (.malformed s.path)) := by
  rw [outcome_refresh, Outcome.anew, create_eq_error h]

theorem countP_failed : (files.map source).countP (fun s =>
    ((world.run {} [.refresh, .products coasts]).outcome {} s).layer? = none) = 1 := by
  have htext (customer : String) (directories : List String) :
      ((world.run {} [.refresh, .products coasts]).outcome {}
        (source (chart customer directories text))).layer? =
          some (layer (source (chart customer directories text))) :=
    congrArg Outcome.layer? (outcome_text rfl)
  have hmalformed : ((world.run {} [.refresh, .products coasts]).outcome {}
      (source (chart "south" [] "\x7b"))).layer? = none :=
    congrArg Outcome.layer? (outcome_malformed rfl)
  simp [files, htext, hmalformed]

end SeaIce

open SeaIce in
/-- A second customer and directories come after the first refresh. Four definitions have four
names, and all but the one that cannot be read are published under them. -/
theorem World.run_names_by_place_seaIce :
    let w := world.run {} [.refresh, .products coasts]
    ∃ found, w.scanned {} = .ok found ∧ found.sources.map Source.defaultName =
        ["north:layer", "north:sea:layer", "south:layer", "south:sea:layer"] ∧
      (found.sources.map Source.defaultName).Nodup ∧ w.Skips {} found 2 ∧
      (∃ summary, (w.refreshed {}).1 = .ok summary ∧ summary.skipped = 1) ∧
      ∀ s ∈ found.sources, s.text = some text →
        (w.step {} .refresh).catalog.current.find? s.defaultName = some (layer s) ∧
        (layer s).nameSpace = s.nameSpace := by
  intro w
  have hscan : w.scanned {} = .ok { sources := files.map source, broken := [] } := scan_coasts
  obtain ⟨hrefresh, -⟩ := run_names_by_place {} world.products world.backend IceCharts.noon
    [.refresh, .products coasts] namesByPlace_products (by simpa using namesByPlace_coasts)
  obtain ⟨-, hpublished⟩ := run_names_by_place {} world.products world.backend IceCharts.noon
    [.refresh, .products coasts, .refresh] namesByPlace_products
    (by simpa using namesByPlace_coasts)
  obtain ⟨hnodup, hskips, hfind, summary, hsummary, hskipped⟩ := hrefresh _ hscan
  refine ⟨_, hscan, by decide, hnodup, ?_, ⟨summary, hsummary, ?_⟩, ?_⟩
  · apply (hskips 2 (source (chart "south" [] "\x7b")) rfl).2
    exact ⟨_, outcome_malformed rfl, create_eq_error rfl⟩
  · exact hskipped.trans countP_failed
  · intro s hs htext
    have hfound := hfind s hs (layer s) (congrArg Outcome.layer? (outcome_text htext))
    obtain ⟨hmem, -⟩ := Generation.find?_eq_some_iff.1 hfound
    obtain ⟨found, hlast, s', hs', -, hname, hnameSpace⟩ := hpublished (layer s) hmem
    cases (lastScan?_refresh hscan).symm.trans hlast
    -- only one source has the name of the layer
    have hsame : s = s' := List.inj_on_of_nodup_map hnodup hs hs' hname
    exact ⟨hfound, hsame ▸ hnameSpace⟩

end LayerAtlas
