import LayerAtlas.Scan
import Mathlib.Data.List.Lex
import Mathlib.Data.List.Nodup
import Mathlib.Data.String.Basic

namespace LayerAtlas

def Path.IsName (name : String) : Prop := name ≠ "" ∧ '/' ∉ name.toList

/-- A tree in which the names in each directory are names of files, and different from each
other. -/
inductive Entry.Proper : Entry → Prop
  | file (f : FileState) : Proper (.file f)
  | broken : Proper .broken
  | closed (cause : String) : Proper (.closed cause)
  | directory {entries : List (String × Entry)} (distinct : (entries.map Prod.fst).Nodup)
      (names : ∀ x ∈ entries, Path.IsName x.1) (below : ∀ x ∈ entries, Proper x.2) :
      Proper (.directory entries)

namespace Entry

variable {e child : Entry} {name : String} {entries : List (String × Entry)}

theorem exists_mem_of_child? (h : e.child? name = some child) :
    ∃ items, e = .directory items ∧ (name, child) ∈ items := by
  obtain ⟨items, hitems, hlookup⟩ := Option.bind_eq_some_iff.1 h
  obtain ⟨before, after, rfl, _⟩ := List.lookup_eq_some_iff.1 hlookup
  cases e with
  | directory items =>
    cases hitems
    exact ⟨_, rfl, List.mem_append_right before List.mem_cons_self⟩
  | _ => cases hitems

theorem directory?_eq_some_iff :
    e.directory? name = some entries ↔ e.child? name = some (.directory entries) := by
  rw [directory?, Option.bind_eq_some_iff]
  apply Iff.intro
  · rintro ⟨child, hchild, hentries⟩
    cases child with
    | directory items =>
      cases hentries
      exact hchild
    | _ => cases hentries
  · intro h
    exact ⟨_, h, rfl⟩

theorem Proper.child? (h : e.Proper) (hchild : e.child? name = some child) : child.Proper := by
  obtain ⟨items, rfl, hmem⟩ := exists_mem_of_child? hchild
  cases h with
  | directory distinct names below => exact below _ hmem

theorem Proper.directory? (h : e.Proper) (hd : e.directory? name = some entries) :
    Proper (.directory entries) :=
  h.child? (directory?_eq_some_iff.1 hd)

end Entry

namespace Scan

/-- Leaves in strictly increasing order of their places, all of them below one place. -/
structure Below (place : List String) (found : List Leaf) : Prop where
  ordered : found.Pairwise fun a b => a.place < b.place
  names : ∀ leaf ∈ found, ∃ rest, leaf.place = place ++ rest ∧ ∀ name ∈ rest, Path.IsName name

theorem Below.nil (place : List String) : Below place [] := by
  refine ⟨.nil, ?_⟩
  intro leaf hleaf
  cases hleaf

theorem Below.singleton (place : List String) (file : Option FileState) :
    Below place [{ place, file }] := by
  refine ⟨List.pairwise_singleton _ _, ?_⟩
  intro leaf hleaf
  rw [List.mem_singleton.1 hleaf]
  refine ⟨[], (List.append_nil place).symm, ?_⟩
  intro name hname
  cases hname

theorem place_lt_of_name_lt (place : List String) {name name' : String} (h : name < name')
    (rest rest' : List String) : place ++ [name] ++ rest < place ++ [name'] ++ rest' := by
  rw [List.append_assoc, List.append_assoc]
  exact List.Lex.append_left (· < ·) (.rel h) place

theorem Below.flatMap {β : Type} {place : List String} {named : List (String × β)}
    {found : String × β → List Leaf} (ordered : named.Pairwise fun x y => x.1 < y.1)
    (h : ∀ x ∈ named, Path.IsName x.1 ∧ Below (place ++ [x.1]) (found x)) :
    Below place (named.flatMap found) := by
  constructor
  · rw [List.pairwise_flatMap]
    refine ⟨fun x hx => (h x hx).2.ordered, ordered.imp_of_mem ?_⟩
    intro x y hx hy hlt a ha b hb
    obtain ⟨rest, hrest, _⟩ := (h x hx).2.names a ha
    obtain ⟨rest', hrest', _⟩ := (h y hy).2.names b hb
    rw [hrest, hrest']
    exact place_lt_of_name_lt place hlt rest rest'
  · intro leaf hleaf
    obtain ⟨x, hx, hmem⟩ := List.mem_flatMap.1 hleaf
    obtain ⟨hname, hbelow⟩ := h x hx
    obtain ⟨rest, hrest, hnames⟩ := hbelow.names leaf hmem
    refine ⟨x.1 :: rest, by rw [hrest, List.append_assoc]; rfl, ?_⟩
    exact List.forall_mem_cons.2 ⟨hname, hnames⟩

theorem pairwise_mergeSort_lt {β : Type} {named : List (String × β)}
    (h : (named.map Prod.fst).Nodup) :
    (named.mergeSort fun a b => a.1 ≤ b.1).Pairwise fun a b => a.1 < b.1 := by
  have hperm := List.mergeSort_perm named fun a b => a.1 ≤ b.1
  have hdistinct := List.pairwise_map.1 ((hperm.map Prod.fst).nodup_iff.2 h)
  have hsorted : (named.mergeSort fun a b => a.1 ≤ b.1).Pairwise fun a b => a.1 ≤ b.1 := by
    refine (List.pairwise_mergeSort ?_ ?_ named).imp of_decide_eq_true
    · intro a b c hab hbc
      exact decide_eq_true (le_trans (of_decide_eq_true hab) (of_decide_eq_true hbc))
    · intro a b
      simpa using le_total a.1 b.1
  refine (hsorted.and hdistinct).imp ?_
  rintro a b ⟨hle, hne⟩
  exact lt_of_le_of_ne hle hne

theorem branches_eq_map (place : List String) (entries : List (String × Entry)) :
    branches place entries = entries.map fun x =>
      (x.1, if isHidden x.1 ∧ ¬ x.2.isBroken then [] else leaves (place ++ [x.1]) x.2) := by
  induction entries with
  | nil => rw [branches, List.map_nil]
  | cons x entries ih => rw [branches, List.map_cons, ih]

theorem mem_leaves_directory {place : List String} {entries : List (String × Entry)}
    {leaf : Leaf} :
    leaf ∈ leaves place (.directory entries) ↔ ∃ x ∈ entries,
      ¬ (isHidden x.1 ∧ ¬ x.2.isBroken) ∧ leaf ∈ leaves (place ++ [x.1]) x.2 := by
  rw [leaves, List.mem_flatMap, branches_eq_map]
  simp only [(List.mergeSort_perm _ _).mem_iff, List.mem_map, exists_exists_and_eq_and,
    List.mem_ite_nil_left]

/-- A walk finds what lies below a place in strictly increasing order. -/
theorem below_leaves {e : Entry} (h : e.Proper) (place : List String) :
    Below place (leaves place e) := by
  induction h generalizing place with
  | file f => exact .singleton place _
  | broken => exact .singleton place _
  | closed cause => exact .singleton place _
  | @directory entries distinct names below ih =>
    rw [leaves, branches_eq_map]
    refine .flatMap (pairwise_mergeSort_lt ?_) ?_
    · rw [List.map_map]
      exact distinct
    · intro x hx
      rw [(List.mergeSort_perm _ _).mem_iff] at hx
      obtain ⟨y, hy, rfl⟩ := List.mem_map.1 hx
      refine ⟨names y hy, ?_⟩
      dsimp only
      split
      · exact .nil _
      · exact ih y hy _

theorem mem_ofCustomer {customer : String} {e : Entry} {leaf : Leaf} :
    leaf ∈ ofCustomer customer e ↔ isHidden customer = false ∧ ∃ products,
      e.child? "products" = some products ∧ products.isDirectory = true ∧
        leaf ∈ leaves [customer] products := by
  rw [ofCustomer, List.mem_ite_nil_left, Bool.not_eq_true]
  refine and_congr_right fun _ => ?_
  cases e.child? "products" with
  | none => simp
  | some products => simp

theorem mem_ofCustomers {customers : List (String × Entry)} {leaf : Leaf} :
    leaf ∈ ofCustomers customers ↔ ∃ x ∈ customers, leaf ∈ ofCustomer x.1 x.2 := by
  rw [ofCustomers, List.mem_flatMap]
  simp only [(List.mergeSort_perm _ _).mem_iff]

theorem below_ofCustomers {customers : List (String × Entry)}
    (h : Entry.Proper (.directory customers)) : Below [] (ofCustomers customers) := by
  cases h with
  | directory distinct names below =>
    refine .flatMap (pairwise_mergeSort_lt distinct) ?_
    intro x hx
    rw [(List.mergeSort_perm _ _).mem_iff] at hx
    refine ⟨names x hx, ?_⟩
    change Below _ (ofCustomer x.1 x.2)
    rw [ofCustomer]
    split
    · exact .nil _
    · split
      · rename_i products hproducts
        split
        · exact below_leaves ((below x hx).child? hproducts) [x.1]
        · exact .nil _
      · exact .nil _

theorem nodup_ofCustomers {customers : List (String × Entry)}
    (h : Entry.Proper (.directory customers)) :
    (ofCustomers customers).Pairwise fun a b => a.place ≠ b.place :=
  (below_ofCustomers h).ordered.imp fun hlt => ne_of_lt hlt

theorem isName_of_mem_place {customers : List (String × Entry)}
    (h : Entry.Proper (.directory customers)) {leaf : Leaf}
    (hleaf : leaf ∈ ofCustomers customers) : ∀ name ∈ leaf.place, Path.IsName name := by
  obtain ⟨rest, hrest, hnames⟩ := (below_ofCustomers h).names leaf hleaf
  rw [hrest]
  exact hnames

end Scan

namespace Path

def Rooted (path : String) : Prop := path ≠ "" ∧ path.toList.getLast? ≠ some '/'

theorem IsName.not_absolute {name : String} (h : IsName name) : isAbsolute name = false := by
  rw [isAbsolute, decide_eq_false_iff_not]
  intro hhead
  exact h.2 (List.mem_of_mem_head? hhead)

theorem toList_joinPath {path name : String} (hpath : Rooted path) (hname : IsName name) :
    (joinPath path name).toList = path.toList ++ '/' :: name.toList := by
  rw [joinPath, hname.not_absolute, if_neg Bool.false_ne_true, if_neg (not_or.2 hpath),
    String.toList_append, String.toList_append, List.append_assoc]
  rfl

theorem Rooted.joinPath {path name : String} (hpath : Rooted path) (hname : IsName name) :
    Rooted (joinPath path name) := by
  have hlist := toList_joinPath hpath hname
  have hne : name.toList ≠ [] := fun h => hname.1 (String.toList_eq_nil_iff.1 h)
  constructor
  · intro h
    rw [h] at hlist
    simp at hlist
  · rw [hlist, List.getLast?_append, List.getLast?_cons, List.getLast?_eq_some_getLast hne]
    intro h
    have hlast : name.toList.getLast hne = '/' := Option.some.inj h
    exact hname.2 (hlast ▸ List.getLast_mem hne)

theorem toList_foldl_joinPath {path : String} {names : List String} (hpath : Rooted path)
    (hnames : ∀ name ∈ names, IsName name) :
    (names.foldl joinPath path).toList =
      path.toList ++ (names.map String.toList).flatMap fun name => '/' :: name := by
  induction names generalizing path with
  | nil => simp
  | cons name rest ih =>
    have hname := hnames name List.mem_cons_self
    rw [List.foldl_cons, ih (hpath.joinPath hname) fun n hn =>
      hnames n (List.mem_cons_of_mem name hn), toList_joinPath hpath hname, List.map_cons,
      List.flatMap_cons, List.append_assoc]

section

variable {α : Type} [DecidableEq α] {sep : α}

theorem takeWhile_separated {x : List α} (hx : sep ∉ x) (xs : List (List α)) :
    (x ++ xs.flatMap fun y => sep :: y).takeWhile (· ≠ sep) = x := by
  rw [List.takeWhile_append_of_pos]
  · cases xs with
    | nil => simp
    | cons y ys => simp
  · intro c hc
    rw [decide_eq_true_eq]
    rintro rfl
    exact hx hc

theorem flatMap_cons_inj {xs ys : List (List α)} (hx : ∀ x ∈ xs, sep ∉ x)
    (hy : ∀ y ∈ ys, sep ∉ y)
    (h : (xs.flatMap fun x => sep :: x) = ys.flatMap fun y => sep :: y) : xs = ys := by
  induction xs generalizing ys with
  | nil =>
    cases ys with
    | nil => rfl
    | cons y ys => cases h
  | cons x xs ih =>
    cases ys with
    | nil => cases h
    | cons y ys =>
      rw [List.flatMap_cons, List.flatMap_cons, List.cons_append, List.cons_append] at h
      have htail := (List.cons.inj h).2
      have hhead : x = y := by
        rw [← takeWhile_separated (hx x List.mem_cons_self) xs, htail,
          takeWhile_separated (hy y List.mem_cons_self) ys]
      subst hhead
      rw [ih (fun z hz => hx z (List.mem_cons_of_mem x hz))
        (fun z hz => hy z (List.mem_cons_of_mem x hz))
        (List.append_cancel_left htail)]

end

end Path

namespace Scan

theorem pathOf_eq_foldl (customers customer : String) (rest : List String) :
    pathOf customers (customer :: rest) =
      (customer :: "products" :: rest).foldl joinPath customers := rfl

theorem pathOf_inj {customers : String} {p q : List String} (hroot : Path.Rooted customers)
    (hp : ∀ name ∈ p, Path.IsName name) (hq : ∀ name ∈ q, Path.IsName name) (hp' : p ≠ [])
    (hq' : q ≠ []) (h : pathOf customers p = pathOf customers q) : p = q := by
  obtain ⟨a, as, rfl⟩ := List.exists_cons_of_ne_nil hp'
  obtain ⟨b, bs, rfl⟩ := List.exists_cons_of_ne_nil hq'
  have hproducts : Path.IsName "products" := by
    constructor
    · decide
    · decide
  have hnames : ∀ {c : String} {cs : List String}, (∀ name ∈ c :: cs, Path.IsName name) →
      ∀ name ∈ c :: "products" :: cs, Path.IsName name := by
    intro c cs hcs name hname
    rcases List.mem_cons.1 hname with rfl | hname
    · exact hcs _ List.mem_cons_self
    · rcases List.mem_cons.1 hname with rfl | hname
      · exact hproducts
      · exact hcs _ (List.mem_cons_of_mem _ hname)
  have hslash : ∀ {cs : List String}, (∀ name ∈ cs, Path.IsName name) →
      ∀ chars ∈ cs.map String.toList, '/' ∉ chars := by
    intro cs hcs chars hchars
    obtain ⟨name, hname, rfl⟩ := List.mem_map.1 hchars
    exact (hcs name hname).2
  have hlist := congrArg String.toList h
  rw [pathOf_eq_foldl, pathOf_eq_foldl, Path.toList_foldl_joinPath hroot (hnames hp),
    Path.toList_foldl_joinPath hroot (hnames hq)] at hlist
  have hmap := Path.flatMap_cons_inj (hslash (hnames hp)) (hslash (hnames hq))
    (List.append_cancel_left hlist)
  have heq := List.map_injective_iff.2 (fun _ _ => String.toList_injective) hmap
  injection heq with hhead htail
  injection htail with _ htail
  rw [hhead, htail]

theorem rooted_customers (root : String) : Path.Rooted (joinPath root "customers") := by
  have hends : ∃ start : String, joinPath root "customers" = start ++ "customers" := by
    rw [joinPath]
    rw [if_neg (by decide)]
    split
    · exact ⟨root, rfl⟩
    · exact ⟨root ++ "/", rfl⟩
  obtain ⟨start, hstart⟩ := hends
  have hlist : (joinPath root "customers").toList = start.toList ++ "customers".toList := by
    rw [hstart, String.toList_append]
  constructor
  · intro h
    rw [h] at hlist
    simp at hlist
  · rw [hlist, List.getLast?_append]
    simp

theorem path_of_source? {customers suffix : String} {leaf : Leaf} {source : Source}
    (h : source? customers suffix leaf = some source) :
    leaf.place ≠ [] ∧ source.path = pathOf customers leaf.place := by
  rw [source?] at h
  cases hplace : leaf.place with
  | nil =>
    rw [hplace] at h
    cases h
  | cons customer rest =>
    refine ⟨List.cons_ne_nil _ _, ?_⟩
    rw [hplace] at h
    simp only [bind, pure, Option.bind_eq_some_iff, Option.some.injEq] at h
    obtain ⟨_, _, _, _, _, _, _, _, rfl⟩ := h
    rfl

theorem exists_file_of_source? {customers suffix : String} {leaf : Leaf} {source : Source}
    (h : source? customers suffix leaf = some source) : ∃ f, leaf.file = some f := by
  rw [source?] at h
  simp only [bind, pure, Option.bind_eq_some_iff] at h
  obtain ⟨_, _, _, _, f, hf, _⟩ := h
  exact ⟨f, hf⟩

theorem source?_eq {customers suffix : String} {leaf leaf' : Leaf} {s s' : Source}
    (h : source? customers suffix leaf = some s) (h' : source? customers suffix leaf' = some s')
    (hplace : leaf.place = leaf'.place) (hmodified : s.modified = s'.modified)
    (htext : s.text = s'.text) :
    s = s' := by
  rw [source?] at h h'
  simp only [bind, pure, Option.bind_eq_some_iff, Option.some.injEq] at h h'
  obtain ⟨customer, hcustomer, name, hname, file, _, stem, hstem, rfl⟩ := h
  obtain ⟨customer', hcustomer', name', hname', file', _, stem', hstem', rfl⟩ := h'
  rw [hplace] at hcustomer hname
  cases hcustomer.symm.trans hcustomer'
  cases hname.symm.trans hname'
  cases hstem.symm.trans hstem'
  simp only [Source.mk.injEq, hplace, true_and]
  exact ⟨hmodified, htext⟩

end Scan

theorem scan_of_directory? {root suffix : String} {tree : Entry}
    {customers : List (String × Entry)} (h : tree.directory? "customers" = some customers) :
    scan root suffix tree = .ok {
      sources := (Scan.ofCustomers customers).filterMap
        (Scan.source? (joinPath root "customers") suffix)
      broken := ((Scan.ofCustomers customers).filter fun leaf => leaf.file = none).map
        fun leaf => Scan.pathOf (joinPath root "customers") leaf.place } := by
  rw [scan, Entry.directory?_eq_some_iff.1 h]

theorem directory?_of_scan {root suffix : String} {tree : Entry} {found : Scan}
    (h : scan root suffix tree = .ok found) :
    ∃ customers, tree.directory? "customers" = some customers := by
  rw [scan] at h
  split at h
  · rename_i customers hchild
    exact ⟨customers, Entry.directory?_eq_some_iff.2 hchild⟩
  · cases h
  · cases h

theorem scan_paths_nodup {root suffix : String} {tree : Entry} {found : Scan}
    (htree : tree.Proper) (h : scan root suffix tree = .ok found) :
    (found.sources.map Source.path).Nodup := by
  obtain ⟨customers, hcustomers⟩ := directory?_of_scan h
  cases (scan_of_directory? hcustomers).symm.trans h
  have hproper := htree.directory? hcustomers
  have hnames : ∀ leaf ∈ Scan.ofCustomers customers, ∀ name ∈ leaf.place, Path.IsName name :=
    fun leaf hleaf => Scan.isName_of_mem_place hproper hleaf
  rw [List.Nodup, List.pairwise_map, List.pairwise_filterMap]
  refine List.Pairwise.imp_of_mem ?_ (Scan.nodup_ofCustomers hproper)
  intro a b ha hb hplaces x hx y hy hpaths
  obtain ⟨hne, hxpath⟩ := Scan.path_of_source? hx
  obtain ⟨hne', hypath⟩ := Scan.path_of_source? hy
  rw [hxpath, hypath] at hpaths
  exact hplaces
    (Scan.pathOf_inj (Scan.rooted_customers root) (hnames a ha) (hnames b hb) hne hne' hpaths)

theorem exists_leaf_of_mem_sources {root suffix : String} {tree : Entry}
    {found : Scan} {s : Source} (h : scan root suffix tree = .ok found)
    (hs : s ∈ found.sources) :
    ∃ customers leaf, tree.directory? "customers" = some customers ∧
      leaf ∈ Scan.ofCustomers customers ∧
      Scan.source? (joinPath root "customers") suffix leaf = some s := by
  obtain ⟨customers, hcustomers⟩ := directory?_of_scan h
  cases (scan_of_directory? hcustomers).symm.trans h
  obtain ⟨leaf, hleaf, hsource⟩ := List.mem_filterMap.1 hs
  exact ⟨customers, leaf, hcustomers, hleaf, hsource⟩

/-- Sources of two trees are the same if they have one path and the file has not changed. -/
theorem source_eq_of_path {root suffix : String} {tree tree' : Entry} {found found' : Scan}
    {s s' : Source} (htree : tree.Proper) (htree' : tree'.Proper)
    (h : scan root suffix tree = .ok found) (h' : scan root suffix tree' = .ok found')
    (hs : s ∈ found.sources) (hs' : s' ∈ found'.sources) (hpath : s.path = s'.path)
    (hmodified : s.modified = s'.modified) (htext : s.text = s'.text) : s = s' := by
  obtain ⟨_, leaf, hcustomers, hleaf, hsource⟩ := exists_leaf_of_mem_sources h hs
  obtain ⟨_, leaf', hcustomers', hleaf', hsource'⟩ := exists_leaf_of_mem_sources h' hs'
  have hnames := Scan.isName_of_mem_place (htree.directory? hcustomers) hleaf
  have hnames' := Scan.isName_of_mem_place (htree'.directory? hcustomers') hleaf'
  obtain ⟨hne, hp⟩ := Scan.path_of_source? hsource
  obtain ⟨hne', hp'⟩ := Scan.path_of_source? hsource'
  have hplace : leaf.place = leaf'.place := by
    refine Scan.pathOf_inj (Scan.rooted_customers root) hnames hnames' hne hne' ?_
    rw [← hp, ← hp', hpath]
  exact Scan.source?_eq hsource hsource' hplace hmodified htext

end LayerAtlas
