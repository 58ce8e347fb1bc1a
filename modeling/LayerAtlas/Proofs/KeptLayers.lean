import LayerAtlas.Proofs.CarriedLayers

namespace LayerAtlas

open Outcome (FirstAt)

def Span.nanoseconds (s : Span) : Int := s.seconds * 1000000000 + s.nanos

theorem Instant.since_nanos_lt (t u : Instant) : (t.since u).nanos < 1000000000 := by
  simp only [since]
  omega

/-- Metadata are fresh until the update interval has passed, and a second before they were asked
for. -/
theorem Layer.isFresh_iff {l : Layer} {now : Instant} :
    l.isFresh now = true ↔ ∃ seconds, l.updateInterval = some seconds ∧ 0 < seconds ∧
      -1000000000 < (now.since l.probedAt).nanoseconds ∧
      (now.since l.probedAt).nanoseconds < seconds * 1000000000 := by
  have hnanos := now.since_nanos_lt l.probedAt
  rw [isFresh]
  cases l.updateInterval with
  | none => exact iff_of_false Bool.false_ne_true fun ⟨_, hnone, _⟩ => nomatch hnone
  | some seconds =>
    change decide (0 ≤ (now.since l.probedAt).wholeSeconds ∧
      (now.since l.probedAt).wholeSeconds < seconds) = true ↔ _
    rw [decide_eq_true_eq, Span.wholeSeconds, Span.nanoseconds]
    simp only [Option.some.injEq, exists_eq_left']
    split
    · omega
    · omega

namespace World

variable {settings : Settings} {w : World} {found : Scan} {source : Source} {l : Layer}

def outcome (settings : Settings) (w : World) : Source → Outcome :=
  .ofSource w.catalog.current (Layer.create settings w.backend w.now) w.now

structure Builds (settings : Settings) (w : World) (source : Source) (l : Layer) : Prop where
  outcome : w.outcome settings source = .built l
  created : Layer.create settings w.backend w.now source = .ok l
  path : l.productFile = source.path
  probedAt : l.probedAt = w.now

/-- The layer of the source is one that was published before from the same file: its metadata
may be used again, and the file has not changed. -/
structure Keeps (settings : Settings) (w : World) (source : Source) (l : Layer) : Prop where
  outcome : w.outcome settings source = .carried l
  published : l ∈ w.catalog.current.layers
  path : l.productFile = source.path
  fresh : ∃ seconds, l.updateInterval = some seconds ∧ 0 < seconds ∧
    -1000000000 < (w.now.since l.probedAt).nanoseconds ∧
    (w.now.since l.probedAt).nanoseconds < seconds * 1000000000
  unchanged : ∃ t, l.modified = some t ∧ source.modified = some t

theorem outcome_cases (settings : Settings) (w : World) (source : Source) :
    (∃ l, Outcome.reusable? w.catalog.current w.now source = some l ∧
      w.outcome settings source = .carried l) ∨
      (∃ l, Layer.create settings w.backend w.now source = .ok l ∧
        w.outcome settings source = .built l) ∨
      ∃ e, Layer.create settings w.backend w.now source = .error e ∧
        w.outcome settings source = .failed e := by
  rw [outcome]
  cases hreusable : Outcome.reusable? w.catalog.current w.now source with
  | some l => exact .inl ⟨l, rfl, Outcome.ofSource_of_reusable hreusable⟩
  | none =>
    right
    rw [Outcome.ofSource_of_not_reusable hreusable, Outcome.anew]
    cases Layer.create settings w.backend w.now source with
    | ok l => exact .inl ⟨l, rfl, rfl⟩
    | error e => exact .inr ⟨e, rfl, rfl⟩

theorem Sound.builds_or_keeps (h : w.Sound) (hl : (w.outcome settings source).layer? = some l) :
    w.Builds settings source l ∨ w.Keeps settings source l := by
  obtain ⟨m, hreusable, houtcome⟩ | ⟨m, hcreate, houtcome⟩ | ⟨e, _, houtcome⟩ :=
    outcome_cases settings w source
  · rw [houtcome] at hl
    cases hl
    obtain ⟨hmem, hfresh, hpath, hsome, hmodified⟩ :=
      (Outcome.reusable?_eq_some_iff h.files).1 hreusable
    obtain ⟨t, ht⟩ := Option.isSome_iff_exists.1 hsome
    exact .inr ⟨houtcome, hmem, hpath, Layer.isFresh_iff.1 hfresh, t, ht,
      hmodified.symm.trans ht⟩
  · rw [houtcome] at hl
    cases hl
    exact .inl ⟨houtcome, hcreate, Layer.productFile_of_create hcreate,
      Layer.probedAt_of_create hcreate⟩
  · rw [houtcome] at hl
    cases hl

theorem mem_layers_refresh_iff (hscan : w.scanned settings = .ok found) :
    l ∈ (w.step settings .refresh).catalog.current.layers ↔
      ∃ i, FirstAt (found.sources.map (w.outcome settings)) i l := by
  obtain ⟨e, he, _⟩ | ⟨found', summary, catalog, hfound, hpublish, hstep⟩ :=
    step_refresh_cases settings w
  · cases hscan.symm.trans he
  · cases hscan.symm.trans hfound
    rw [hstep, Outcome.firstAt_iff, ← Selection.mem_ofOutcomes]
    cases hpublish
    rfl

theorem exists_source_of_firstAt {i : Nat}
    (h : FirstAt (found.sources.map (w.outcome settings)) i l) :
    ∃ source, found.sources[i]? = some source ∧
      (w.outcome settings source).layer? = some l := by
  obtain ⟨⟨o, ho, hl⟩, _⟩ := h
  rw [List.getElem?_map, Option.map_eq_some_iff] at ho
  obtain ⟨source, hsource, rfl⟩ := ho
  exact ⟨source, hsource, hl⟩

theorem Sound.refresh_builds_or_keeps (h : w.Sound) (hscan : w.scanned settings = .ok found)
    (hl : l ∈ (w.step settings .refresh).catalog.current.layers) :
    ∃ source ∈ found.sources, w.Builds settings source l ∨ w.Keeps settings source l := by
  obtain ⟨i, hfirst⟩ := (mem_layers_refresh_iff hscan).1 hl
  obtain ⟨source, hsource, hlayer⟩ := exists_source_of_firstAt hfirst
  exact ⟨source, List.mem_of_getElem? hsource, h.builds_or_keeps hlayer⟩

theorem run_append (settings : Settings) (w : World) (events events' : List Event) :
    w.run settings (events ++ events') = (w.run settings events).run settings events' :=
      List.foldl_append

/-- The layer was built by a refresh of the run, and every generation since then has it. -/
def BuiltIn (settings : Settings) (start : World) (events : List Event) (l : Layer) : Prop :=
  ∃ before after found source, events = before ++ .refresh :: after ∧
    (start.run settings before).scanned settings = .ok found ∧ source ∈ found.sources ∧
    (start.run settings before).Builds settings source l ∧
    ∀ between, between <+: after →
      l ∈ (start.run settings (before ++ .refresh :: between)).catalog.current.layers

variable {start : World} {events : List Event} {event : Event}

theorem BuiltIn.concat (h : start.BuiltIn settings events l)
    (hl : l ∈ (start.run settings (events ++ [event])).catalog.current.layers) :
    start.BuiltIn settings (events ++ [event]) l := by
  obtain ⟨before, after, found, source, rfl, hscan, hsource, hbuilds, hsince⟩ := h
  refine ⟨before, after ++ [event], found, source, by simp, hscan, hsource, hbuilds, ?_⟩
  intro between hbetween
  rcases List.prefix_concat_iff.1 hbetween with rfl | hprefix
  · simpa using hl
  · exact hsince between hprefix

theorem Sound.builtIn (h : start.Sound) (hempty : start.catalog.current.layers = [])
    (hl : l ∈ (start.run settings events).catalog.current.layers) :
    start.BuiltIn settings events l := by
  -- the last event is the one that may have built the layer
  induction events using List.reverseRecOn with
  | nil =>
    change l ∈ start.catalog.current.layers at hl
    rw [hempty] at hl
    cases hl
  | append_singleton events event ih =>
    have hlast :
        start.run settings (events ++ [event]) =
          (start.run settings events).step settings event :=
      run_append settings start events [event]
    have hkept : l ∈ (start.run settings events).catalog.current.layers →
        start.BuiltIn settings (events ++ [event]) l := fun hbefore => (ih hbefore).concat hl
    rw [hlast] at hl
    cases event with
    | products tree => exact hkept hl
    | backend backend => exact hkept hl
    | clock now => exact hkept hl
    | refresh =>
      obtain ⟨e, _, hstep⟩ | ⟨found, _, _, hscan, _⟩ :=
        step_refresh_cases settings (start.run settings events)
      · rw [hstep] at hl
        exact hkept hl
      · obtain ⟨source, hsource, hbuilds | hkeeps⟩ :=
          (h.run events).refresh_builds_or_keeps hscan hl
        · refine ⟨events, [], found, source, rfl, hscan, hsource, hbuilds, ?_⟩
          intro between hbetween
          rw [List.prefix_nil.1 hbetween, hlast]
          exact hl
        · exact hkept hkeeps.published

theorem successes_step (settings : Settings) (w : World) (event : Event) :
    ((w.step settings event).catalog = w.catalog ∧
      (w.step settings event).successes = w.successes) ∨
      (w.step settings event).successes.length = w.successes.length + 1 := by
  cases event with
  | products tree => exact .inl ⟨rfl, rfl⟩
  | backend backend => exact .inl ⟨rfl, rfl⟩
  | clock now => exact .inl ⟨rfl, rfl⟩
  | refresh =>
    obtain ⟨e, _, hstep⟩ | ⟨found, summary, catalog, _, _, hstep⟩ :=
      step_refresh_cases settings w
    · rw [hstep]
      exact .inl ⟨rfl, rfl⟩
    · rw [hstep]
      exact .inr rfl

theorem length_successes_le (settings : Settings) (w : World) (events : List Event) :
    w.successes.length ≤ (w.run settings events).successes.length := by
  induction events generalizing w with
  | nil => exact le_refl _
  | cons event events ih =>
    have hrest :
        (w.step settings event).successes.length ≤
          (w.run settings (event :: events)).successes.length :=
      ih (w.step settings event)
    rcases successes_step settings w event with ⟨_, hsame⟩ | hmore
    · rw [hsame] at hrest
      exact hrest
    · omega

theorem catalog_of_successes
    (h : (w.run settings events).successes.length = w.successes.length) :
    (w.run settings events).catalog = w.catalog := by
  induction events generalizing w with
  | nil => rfl
  | cons event events ih =>
    change ((w.step settings event).run settings events).successes.length = _ at h
    rcases successes_step settings w event with ⟨hcatalog, hsame⟩ | hmore
    · rw [← hsame] at h
      exact (ih h).trans hcatalog
    · have hle := length_successes_le settings (w.step settings event) events
      omega

theorem Sound.catalog_of_number (h : w.Sound)
    (hnumber : (w.run settings events).catalog.current.number = w.catalog.current.number) :
    (w.run settings events).catalog = w.catalog := by
  apply catalog_of_successes
  rw [← (h.run events).number, hnumber, h.number]

/-- Source number `i` gets no layer of its own: none could be had, or the name of its layer was
taken. -/
def Skips (settings : Settings) (w : World) (found : Scan) (i : Nat) : Prop :=
  ∀ l, ¬ FirstAt (found.sources.map (w.outcome settings)) i l

theorem Sound.unpublished_of_skips (h : w.Sound)
    (hscan : w.scanned settings = .ok found) {i : Nat}
    (hsource : found.sources[i]? = some source) (hskips : w.Skips settings found i)
    (hl : l ∈ (w.step settings .refresh).catalog.current.layers) :
    l.productFile ≠ source.path := by
  intro hfile
  obtain ⟨j, hfirst⟩ := (mem_layers_refresh_iff hscan).1 hl
  obtain ⟨source', hsource', hlayer⟩ := exists_source_of_firstAt hfirst
  have hfile' : l.productFile = source'.path := by
    rcases h.builds_or_keeps hlayer with hbuilds | hkeeps
    · exact hbuilds.path
    · exact hkeeps.path
  -- one path is that of one source
  have hpaths : (found.sources.map Source.path)[j]? = (found.sources.map Source.path)[i]? := by
    rw [List.getElem?_map, List.getElem?_map, hsource, hsource', Option.map_some,
      Option.map_some, ← hfile', hfile]
  have hj : j < (found.sources.map Source.path).length := by
    rw [List.length_map]
    exact (List.getElem?_eq_some_iff.1 hsource').1
  cases (List.getElem?_inj hj (scan_paths_nodup w.products.proper hscan)).1 hpaths
  exact hskips l hfirst

/-- After every run, what a refresh publishes is built by it, or was published before from the
same file, with metadata that are fresh and a definition that is unchanged. What is published
has been so since it was built. A source that is skipped is not carried over by the next refresh
that succeeds. -/
theorem run_keeps_layers (settings : Settings) (products : ProductTree) (backend : Backend)
    (now : Instant) (events : List Event) :
    let start : World := { products, backend, now }
    let w := start.run settings events
    (∀ found, w.scanned settings = .ok found →
      ∀ l ∈ (w.step settings .refresh).catalog.current.layers,
      ∃ source ∈ found.sources, w.Builds settings source l ∨ w.Keeps settings source l) ∧
    (∀ l ∈ w.catalog.current.layers, start.BuiltIn settings events l) ∧
    ∀ found i source, w.scanned settings = .ok found → found.sources[i]? = some source →
      w.Skips settings found i → ∀ later found' source',
        let next := (w.step settings .refresh).run settings later
        next.catalog.current.number = (w.step settings .refresh).catalog.current.number →
          next.scanned settings = .ok found' → source' ∈ found'.sources →
          source'.path = source.path →
            (next.outcome settings source').isCarried = false := by
  intro start w
  have hstart : start.Sound := sound_new products backend now
  have hsound : w.Sound := hstart.run events
  refine ⟨?_, ?_, ?_⟩
  · intro found hscan l hl
    exact hsound.refresh_builds_or_keeps hscan hl
  · intro l hl
    exact hstart.builtIn rfl hl
  · intro found i source hscan hsource hskips later found' source' next hnumber _ _ hpath
    have hcatalog : next.catalog = (w.step settings .refresh).catalog :=
      hsound.refresh.catalog_of_number hnumber
    cases hreusable : Outcome.reusable? next.catalog.current next.now source' with
    | none =>
      rw [outcome, Outcome.ofSource_of_not_reusable hreusable]
      exact Outcome.isCarried_anew _ _
    | some l =>
      obtain ⟨hl, hfile, _⟩ := Outcome.mem_of_reusable? hreusable
      rw [hcatalog] at hl
      exact absurd (hfile.trans hpath) (hsound.unpublished_of_skips hscan hsource hskips hl)

end World

open IceCharts in
/-- A minute after it was built the chart is kept. -/
theorem World.run_keeps_layers_iceCharts :
    let w := run {} (world threeHours) [.refresh, .clock later]
    layer threeHours ∈ (w.step {} .refresh).catalog.current.layers ∧
    w.Keeps {} source (layer threeHours) := by
  intro w
  have hscan : w.scanned {} = .ok { sources := [source], broken := [] } :=
    scanned_world threeHours
  have houtcome : w.outcome {} source = .carried (layer threeHours) :=
    Outcome.ofSource_of_reusable (reusable?_later threeHours)
  have hfirst : FirstAt [w.outcome {} source] 0 (layer threeHours) :=
    ⟨⟨_, rfl, congrArg Outcome.layer? houtcome⟩, fun j hj => absurd hj (Nat.not_lt_zero j)⟩
  have hl : layer threeHours ∈ (w.step {} .refresh).catalog.current.layers :=
    (mem_layers_refresh_iff hscan).2 ⟨0, hfirst⟩
  obtain ⟨hpublished, _⟩ :=
    run_keeps_layers {} (world threeHours).products (world threeHours).backend noon
    [.refresh, .clock later]
  obtain ⟨source', hsource', hbuilds | hkeeps⟩ := hpublished _ hscan _ hl
  · rw [List.mem_singleton.1 hsource'] at hbuilds
    cases houtcome.symm.trans hbuilds.outcome
  · rw [List.mem_singleton.1 hsource'] at hkeeps
    exact ⟨hl, hkeeps⟩

end LayerAtlas
