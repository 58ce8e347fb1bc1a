import LayerAtlas.Inventory
import Mathlib.Data.List.Forall2

namespace LayerAtlas

namespace InventoryCache

variable {cache : InventoryCache} {file : Option FileState} {f : FileState}
  {inventory : Inventory} {e : ProbeError}
  {states : List FileState}

/-- What a file says: an inventory, unless it is missing, cannot be read or holds another
text. -/
inductive Says : Option FileState → Except ProbeError Inventory → Prop
  | missing : Says none (.error .unavailable)
  | unreadable {f : FileState} (h : f.text = none) : Says (some f) (.error .unavailable)
  | malformed {f : FileState} {text : String} (htext : f.text = some text)
      (h : Inventory.ofText? text = none) :
      Says (some f) (.error .unavailable)
  | inventory {f : FileState} {text : String} {inventory : Inventory}
      (htext : f.text = some text)
      (h : Inventory.ofText? text = some inventory) : Says (some f) (.ok inventory)

theorem readFile_eq_iff {answer : Except ProbeError Inventory} :
    readFile file = answer ↔ Says file answer := by
  apply Iff.intro
  · rintro rfl
    cases file with
    | none => exact .missing
    | some f =>
      rw [readFile, Option.bind_some]
      cases htext : f.text with
      | none => exact .unreadable htext
      | some text =>
        rw [Option.bind_some]
        cases h : Inventory.ofText? text with
        | none => exact .malformed htext h
        | some inventory => exact .inventory htext h
  · intro h
    cases h with
    | missing => rfl
    | unreadable h => rw [readFile, Option.bind_some, h, Option.bind_none]
    | malformed htext h => rw [readFile, Option.bind_some, htext, Option.bind_some, h]
    | inventory htext h => rw [readFile, Option.bind_some, htext, Option.bind_some, h]

theorem load_cases (cache : InventoryCache) (file : Option FileState) :
    (∃ f inventory, file = some f ∧ cache.last = some (f.modified, inventory) ∧
        cache.load file = (.ok inventory, cache)) ∨
      (∀ f inventory, file = some f → cache.last ≠ some (f.modified, inventory)) ∧
        ((∃ f inventory, file = some f ∧ readFile file = .ok inventory ∧
            cache.load file = (.ok inventory, { last := some (f.modified, inventory) })) ∨
          ∃ e, readFile file = .error e ∧ cache.load file = (.error e, cache)) := by
  cases file with
  | none => exact .inr ⟨fun _ _ hf => (nomatch hf), .inr ⟨.unavailable, rfl, rfl⟩⟩
  | some f =>
    rw [load]
    cases hfresh : cache.last.filter fun entry => entry.1 = f.modified with
    | some entry =>
      obtain ⟨hlast, hmodified⟩ := Option.filter_eq_some_iff.1 hfresh
      rw [decide_eq_true_eq] at hmodified
      exact .inl ⟨f, entry.2, rfl, hmodified ▸ hlast, rfl⟩
    | none =>
      refine .inr ⟨?_, ?_⟩
      · rintro _ inventory ⟨⟩ hlast
        simp [hlast] at hfresh
      · cases hread : readFile (some f) with
        | ok inventory => exact .inl ⟨f, inventory, rfl, rfl, rfl⟩
        | error e => exact .inr ⟨e, rfl, rfl⟩

theorem load_of_error (h : (cache.load file).1 = .error e) : (cache.load file).2 = cache := by
  obtain ⟨f, inventory, _, _, hload⟩ | ⟨_, ⟨f, inventory, _, _, hload⟩ | ⟨e', _, hload⟩⟩ :=
    load_cases cache file
  · rw [hload]
  · rw [hload] at h
    cases h
  · rw [hload]

theorem last_of_load (h : (cache.load (some f)).1 = .ok inventory) :
    (cache.load (some f)).2.last = some (f.modified, inventory) := by
  obtain ⟨f', _, hf, hlast, hload⟩ | ⟨_, ⟨f', _, hf, _, hload⟩ | ⟨e, _, hload⟩⟩ :=
    load_cases cache (some f)
  · cases hf
    rw [hload] at h ⊢
    cases h
    exact hlast
  · cases hf
    rw [hload] at h ⊢
    cases h
    rfl
  · rw [hload] at h
    cases h

theorem load_of_last (h : cache.last = some (f.modified, inventory)) :
    cache.load (some f) = (.ok inventory, cache) := by
  obtain ⟨f', inventory', hf, hlast, hload⟩ | ⟨hnone, _⟩ := load_cases cache (some f)
  · cases hf
    cases hlast.symm.trans h
    exact hload
  · exact absurd h (hnone f inventory rfl)

/-- Each state of a file has a time of change of its own. -/
def Dated (states : List FileState) : Prop :=
  ∀ f ∈ states, ∀ g ∈ states, f.modified = g.modified → f = g

instance (states : List FileState) : Decidable (Dated states) :=
  inferInstanceAs (Decidable (∀ f ∈ states, ∀ g ∈ states, f.modified = g.modified → f = g))

/-- What is remembered is what one of the states says, and its time of change. -/
def Recalls (cache : InventoryCache) (states : List FileState) : Prop :=
  ∀ modified inventory, cache.last = some (modified, inventory) →
    ∃ f ∈ states, f.modified = modified ∧ readFile (some f) = .ok inventory

/-- Of dated states a load answers what the file says, and goes on to remember what one of them
says. -/
theorem Recalls.load (h : cache.Recalls states) (hdated : Dated states)
    (hfile : ∀ f ∈ file, f ∈ states) :
    (cache.load file).1 = readFile file ∧ (cache.load file).2.Recalls states := by
  obtain ⟨f, inventory, rfl, hlast, hload⟩ | ⟨_,
      ⟨f, inventory, rfl, hread, hload⟩ | ⟨e, hread, hload⟩⟩ :=
    load_cases cache file
  · obtain ⟨g, hg, hmodified, hread⟩ := h f.modified inventory hlast
    have hsame : g = f := hdated g hg f (hfile f rfl) hmodified
    rw [hload, ← hsame, hread]
    exact ⟨rfl, h⟩
  · rw [hload, hread]
    refine ⟨rfl, ?_⟩
    rintro _ _ ⟨⟩
    exact ⟨f, hfile f rfl, rfl, hread⟩
  · rw [hload, hread]
    exact ⟨rfl, h⟩

end InventoryCache

open InventoryCache

structure InventoryReader where
  file : Option FileState
  cache : InventoryCache := {}

namespace InventoryReader

inductive Event where
  | file (state : Option FileState)
  | load

def Event.state? : Event → Option FileState
  | file state => state
  | load => none

def step (r : InventoryReader) : Event → InventoryReader
  | .file state => { r with file := state }
  | .load => { r with cache := (r.cache.load r.file).2 }

def answers (r : InventoryReader) : List Event → List (Except ProbeError Inventory)
  | [] => []
  | .file state :: events => (r.step (.file state)).answers events
  | .load :: events => (r.cache.load r.file).1 :: (r.step .load).answers events

def loaded (file : Option FileState) : List Event → List (Option FileState)
  | [] => []
  | .file state :: events => loaded state events
  | .load :: events => file :: loaded file events

def states (file : Option FileState) (events : List Event) : List FileState :=
  file.toList ++ events.filterMap Event.state?

variable {r : InventoryReader} {events : List Event} {known : List FileState}

theorem answers_eq_map (h : r.cache.Recalls known) (hdated : Dated known)
    (hknown : states r.file events ⊆ known) :
    r.answers events = (loaded r.file events).map readFile := by
  induction events generalizing r with
  | nil => rfl
  | cons event events ih =>
    cases event with
    | file state =>
      refine ih h fun f hf => hknown ?_
      cases state with
      | none => exact List.mem_append_right _ hf
      | some g => exact List.mem_append_right _ hf
    | load =>
      have hfile : ∀ f ∈ r.file, f ∈ known :=
        fun f hf => hknown (List.mem_append_left _ (Option.mem_toList.2 hf))
      obtain ⟨hanswer, hrecalls⟩ := h.load hdated hfile
      rw [answers, loaded, List.map_cons, hanswer]
      exact congrArg _ (ih (r := r.step .load) hrecalls hknown)

/-- Where no two states of the file share their time of change, every load answers what the file
says when it is asked. A load that fails changes none of the later answers, and the answer of
one that succeeds is given again for the same time of change. -/
theorem answers_of_dated :
    (∀ file events, Dated (states file events) →
      List.Forall₂ Says (loaded file events) (answers { file } events)) ∧
    (∀ (r : InventoryReader) e, (r.cache.load r.file).1 = .error e →
      ∀ later, (r.step .load).answers later = r.answers later) ∧
    ∀ (r : InventoryReader) f inventory, r.file = some f →
      (r.cache.load r.file).1 = .ok inventory →
      ∀ g, g.modified = f.modified → ((r.step .load).cache.load (some g)).1 =
        .ok inventory := by
  refine ⟨?_, ?_, ?_⟩
  · intro file events hdated
    have hnothing : Recalls {} (states file events) := fun _ _ hlast => nomatch hlast
    rw [answers_eq_map (r := { file }) hnothing hdated (List.Subset.refl _),
      List.forall₂_map_right_iff, List.forall₂_same]
    exact fun state _ => readFile_eq_iff.1 rfl
  · intro r e he later
    have hsame : r.step .load = r := by
      rw [step, load_of_error he]
    rw [hsame]
  · intro r f inventory hf hanswer g hg
    rw [hf] at hanswer
    have hlast := last_of_load hanswer
    rw [← hg] at hlast
    rw [step, hf, load_of_last hlast]

def restored : FileState := { modified := 1, text := some "tables: \x7bice: \x7b\x7d\x7d" }

def restoring : List Event :=
  [.load, .file (some { modified := 3, text := some "tables: ice" }), .load,
    .file (some { modified := 2, text := none }), .load, .file none, .load,
    .file (some restored), .load]

theorem answers_restoring :
    Dated (states (some restored) restoring) ∧
    ∃ inventory : Inventory, inventory.tables.map Prod.fst = ["ice"] ∧
      answers { file := some restored } restoring =
        [.ok inventory, .error .unavailable, .error .unavailable, .error .unavailable,
          .ok inventory] := by
  have hdated : Dated (states (some restored) restoring) := by decide +kernel
  have htables :
      (Inventory.ofText? "tables: \x7bice: \x7b\x7d\x7d").map (fun i => i.tables.map Prod.fst) =
        some ["ice"] := by decide +kernel
  have hother : Inventory.ofText? "tables: ice" = none :=
    Option.isNone_iff_eq_none.1 (by decide +kernel)
  obtain ⟨inventory, hread, hice⟩ := Option.map_eq_some_iff.1 htables
  refine ⟨hdated, inventory, hice, ?_⟩
  have hsays := (answers_of_dated.1 (some restored) restoring hdated).imp fun _ _ =>
    readFile_eq_iff.2
  have hanswers := List.forall₂_eq_eq_eq ▸ List.forall₂_map_left_iff.2 hsays
  rw [← hanswers]
  have hrestored : readFile (some restored) = .ok inventory :=
    readFile_eq_iff.2 (.inventory rfl hread)
  have hmalformed :
      readFile (some { modified := 3, text := some "tables: ice" }) = .error .unavailable :=
    readFile_eq_iff.2 (.malformed rfl hother)
  have hunreadable : readFile (some { modified := 2, text := none }) = .error .unavailable :=
    rfl
  have hmissing : readFile none = .error .unavailable := rfl
  simp only [loaded, restoring, List.map_cons, List.map_nil, hrestored, hmalformed,
    hunreadable, hmissing]

end InventoryReader

end LayerAtlas
