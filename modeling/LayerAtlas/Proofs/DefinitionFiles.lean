import LayerAtlas.Proofs.ByteOrder
import LayerAtlas.Proofs.Checks
import LayerAtlas.Proofs.Runs

namespace LayerAtlas

namespace Entry

/-- A regular file is found where these names lead to. -/
inductive Holds : Entry → List String → FileState → Prop
  | file (f : FileState) : Holds (.file f) [] f
  | directory {entries : List (String × Entry)} {name : String} {e : Entry} {rest : List String}
      {f : FileState}
      (member : (name, e) ∈ entries) (below : Holds e rest f) :
      Holds (.directory entries) (name :: rest) f

/-- A tree in which all links can be followed and all directories can be read. -/
inductive Unbroken : Entry → Prop
  | file (f : FileState) : Unbroken (.file f)
  | directory {entries : List (String × Entry)} (below : ∀ x ∈ entries, Unbroken x.2) :
      Unbroken (.directory entries)

variable {e child : Entry} {name : String} {entries : List (String × Entry)}
  {rest : List String}
  {f : FileState}

theorem Proper.child?_eq_some_iff (h : e.Proper) :
    e.child? name = some child ↔ ∃ items, e = .directory items ∧ (name, child) ∈ items := by
  apply Iff.intro
  · exact exists_mem_of_child?
  · rintro ⟨items, rfl, hmem⟩
    cases h with
    | directory distinct names below =>
      obtain ⟨before, after, rfl⟩ := List.append_of_mem hmem
      rw [List.map_append, List.map_cons] at distinct
      refine List.lookup_eq_some_iff.2 ⟨before, after, rfl, ?_⟩
      intro p hp
      rw [bne_iff_ne]
      rintro rfl
      exact (List.nodup_append.1 distinct).2.2 _ (List.mem_map_of_mem hp) _
        List.mem_cons_self rfl

theorem Unbroken.child? (h : e.Unbroken) (hchild : e.child? name = some child) :
    child.Unbroken := by
  obtain ⟨items, rfl, hmem⟩ := exists_mem_of_child? hchild
  cases h with
  | directory below => exact below _ hmem

theorem Unbroken.exists_directory? (h : e.Unbroken) (hchild : e.child? name = some child)
    (hdirectory : child.isDirectory = true) : ∃ items, child = .directory items := by
  cases h.child? hchild with
  | file f => cases hdirectory
  | directory below => exact ⟨_, rfl⟩

theorem Proper.holds_cons_iff (h : e.Proper) :
    e.Holds (name :: rest) f ↔ ∃ child, e.child? name = some child ∧ child.Holds rest f := by
  apply Iff.intro
  · rintro (_ | ⟨hmem, hbelow⟩)
    exact ⟨_, h.child?_eq_some_iff.2 ⟨_, rfl, hmem⟩, hbelow⟩
  · rintro ⟨child, hchild, hbelow⟩
    obtain ⟨items, rfl, hmem⟩ := exists_mem_of_child? hchild
    exact .directory hmem hbelow

theorem Proper.holds_products_iff {customers : List (String × Entry)} {customer : String}
    (h : e.Proper) (hcustomers : e.directory? "customers" = some customers) :
    e.Holds ("customers" :: customer :: "products" :: rest) f ↔ ∃ below products,
      (customer, below) ∈ customers ∧ below.child? "products" = some products ∧
        products.Holds rest f := by
  rw [h.holds_cons_iff, directory?_eq_some_iff.1 hcustomers]
  simp only [Option.some.injEq, exists_eq_left']
  cases h.directory? hcustomers with
  | directory _ _ hproper =>
    apply Iff.intro
    · rintro (_ | ⟨hmem, hbelow⟩)
      obtain ⟨products, hproducts, hholds⟩ := (hproper _ hmem).holds_cons_iff.1 hbelow
      exact ⟨_, products, hmem, hproducts, hholds⟩
    · rintro ⟨below, products, hmem, hproducts, hholds⟩
      exact .directory hmem ((hproper _ hmem).holds_cons_iff.2 ⟨products, hproducts, hholds⟩)

theorem Holds.isBroken (h : e.Holds rest f) : e.isBroken = false := by
  cases h with
  | file f => rfl
  | directory member below => rfl

theorem Holds.isDirectory_iff (h : e.Holds rest f) : e.isDirectory = true ↔ rest ≠ [] := by
  cases h with
  | file f => simp [isDirectory]
  | directory member below => simp [isDirectory]

end Entry

namespace Scan

theorem mem_leaves_iff {e : Entry} (h : e.Proper) {place p : List String} {f : FileState} :
    { place := p, file := some f } ∈ leaves place e ↔
    ∃ rest, p = place ++ rest ∧ e.Holds rest f ∧
      ∀ name ∈ rest, isHidden name = false := by
  induction h generalizing place with
  | file g =>
    rw [leaves, List.mem_singleton, Leaf.mk.injEq, Option.some.injEq]
    apply Iff.intro
    · rintro ⟨rfl, rfl⟩
      exact ⟨[], (List.append_nil _).symm, .file f, List.forall_mem_nil _⟩
    · rintro ⟨rest, rfl, ⟨⟩, _⟩
      exact ⟨List.append_nil place, rfl⟩
  | broken =>
    rw [leaves, List.mem_singleton]
    apply iff_of_false
    · rintro ⟨⟩
    · rintro ⟨rest, _, ⟨⟩, _⟩
  | closed cause =>
    rw [leaves, List.mem_singleton]
    apply iff_of_false
    · rintro ⟨⟩
    · rintro ⟨rest, _, ⟨⟩, _⟩
  | @directory entries _ _ below ih =>
    rw [mem_leaves_directory]
    apply Iff.intro
    · rintro ⟨x, hx, hshown, hleaf⟩
      obtain ⟨rest, rfl, hholds, hrest⟩ := (ih x hx).1 hleaf
      have hx' : isHidden x.1 = false := by
        rw [hholds.isBroken] at hshown
        simpa using hshown
      refine ⟨x.1 :: rest, by rw [List.append_assoc]; rfl, .directory hx hholds, ?_⟩
      exact List.forall_mem_cons.2 ⟨hx', hrest⟩
    · rintro ⟨rest, rfl, hholds, hrest⟩
      cases hholds with
      | @directory _ name e rest _ hmem hbelow =>
        obtain ⟨hname, hrest⟩ := List.forall_mem_cons.1 hrest
        refine ⟨(name, e), hmem, by rw [hname]; simp, ?_⟩
        exact (ih (name, e) hmem).2 ⟨rest, by rw [List.append_assoc]; rfl, hbelow, hrest⟩

theorem exists_file_of_mem_leaves {e : Entry} (h : e.Unbroken)
    {place : List String} {leaf : Leaf} (hleaf : leaf ∈ leaves place e) :
    ∃ p f, leaf = { place := p, file := some f } := by
  induction h generalizing place with
  | file f =>
    rw [leaves, List.mem_singleton] at hleaf
    exact ⟨place, f, hleaf⟩
  | directory below ih =>
    obtain ⟨x, hx, _, hleaf⟩ := mem_leaves_directory.1 hleaf
    exact ih x hx hleaf

theorem mk_mem_ofCustomers_iff {tree : Entry} {customers : List (String × Entry)}
    (hproper : tree.Proper) (hcustomers : tree.directory? "customers" = some customers)
    {p : List String} {f : FileState} :
    { place := p, file := some f } ∈ ofCustomers customers ↔
      ∃ customer rest, p = customer :: rest ∧ rest ≠ [] ∧
        tree.Holds ("customers" :: customer :: "products" :: rest) f ∧
        ∀ name ∈ customer :: rest, isHidden name = false := by
  have hbelow {customer : String} {e products : Entry} (hmem : (customer, e) ∈ customers)
      (hproducts : e.child? "products" = some products) : products.Proper := by
    cases hproper.directory? hcustomers with
    | directory _ _ hbelow => exact (hbelow _ hmem).child? hproducts
  simp only [mem_ofCustomers, mem_ofCustomer]
  apply Iff.intro
  · rintro ⟨⟨customer, e⟩, hmem, hshown, products, hproducts, hdirectory, hleaf⟩
    obtain ⟨rest, rfl, hholds, hrest⟩ := (mem_leaves_iff (hbelow hmem hproducts)).1 hleaf
    have hheld :=
      (hproper.holds_products_iff hcustomers).2 ⟨e, products, hmem, hproducts, hholds⟩
    exact ⟨customer, rest, rfl, hholds.isDirectory_iff.1 hdirectory, hheld,
      List.forall_mem_cons.2 ⟨hshown, hrest⟩⟩
  · rintro ⟨customer, rest, rfl, hne, hheld, hshown⟩
    obtain ⟨hcustomer, hrest⟩ := List.forall_mem_cons.1 hshown
    obtain ⟨e, products, hmem, hproducts, hholds⟩ :=
      (hproper.holds_products_iff hcustomers).1 hheld
    refine ⟨(customer, e), hmem, hcustomer, products, hproducts,
      hholds.isDirectory_iff.2 hne, ?_⟩
    exact (mem_leaves_iff (hbelow hmem hproducts)).2 ⟨rest, rfl, hholds, hrest⟩

theorem mem_ofCustomers_iff_holds {tree : Entry} {customers : List (String × Entry)}
    (hproper : tree.Proper) (hunbroken : tree.Unbroken)
    (hcustomers : tree.directory? "customers" = some customers) {leaf : Leaf} :
    leaf ∈ ofCustomers customers ↔ ∃ customer rest f,
      leaf = { place := customer :: rest, file := some f } ∧ rest ≠ [] ∧
      tree.Holds ("customers" :: customer :: "products" :: rest) f ∧
      ∀ name ∈ customer :: rest, isHidden name = false := by
  apply Iff.intro
  · intro hleaf
    obtain ⟨x, hmem, hbelow⟩ := mem_ofCustomers.1 hleaf
    obtain ⟨_, products, hproducts, _, hbelow⟩ := mem_ofCustomer.1 hbelow
    have hitems : products.Unbroken := by
      cases hunbroken.child? (Entry.directory?_eq_some_iff.1 hcustomers) with
      | directory hbelow => exact (hbelow _ hmem).child? hproducts
    obtain ⟨p, f, rfl⟩ := exists_file_of_mem_leaves hitems hbelow
    obtain ⟨customer, rest, rfl, hfound⟩ := (mk_mem_ofCustomers_iff hproper hcustomers).1 hleaf
    exact ⟨customer, rest, f, rfl, hfound⟩
  · rintro ⟨customer, rest, f, rfl, hfound⟩
    exact (mk_mem_ofCustomers_iff hproper hcustomers).2 ⟨customer, rest, rfl, hfound⟩

theorem stem?_eq_some_iff {suffix name stem : String} :
    stem? suffix name = some stem ↔ stem ≠ "" ∧ stem ++ suffix = name := by
  simp only [stem?, List.isPrefixOf_iff_prefix, List.reverse_prefix,
    Option.ite_none_right_eq_some, Option.some.injEq]
  apply Iff.intro
  · rintro ⟨⟨hlonger, rest, hrest⟩, rfl⟩
    rw [← hrest, List.length_append, Nat.add_sub_cancel, List.take_left]
    constructor
    · intro hempty
      rw [← String.toList_eq_nil_iff, String.toList_ofList] at hempty
      rw [← hrest, hempty] at hlonger
      exact absurd hlonger (lt_irrefl _)
    · rw [← String.toList_inj, String.toList_append, String.toList_ofList, hrest]
  · rintro ⟨hne, rfl⟩
    rw [String.toList_append, List.length_append, Nat.add_sub_cancel, List.take_left,
      String.ofList_toList]
    have hpos : 0 < stem.toList.length :=
      List.length_pos_iff.2 (mt String.toList_eq_nil_iff.1 hne)
    exact ⟨⟨by omega, List.suffix_append _ _⟩, rfl⟩

theorem definitionStem?_eq_some_iff {suffix name stem : String} :
    definitionStem? suffix name = some stem ↔
    isHidden name = false ∧ name.toList.getLast? ≠ some '~' ∧
      stem ≠ "" ∧ stem ++ suffix = name := by
  rw [definitionStem?, Option.ite_none_left_eq_some, stem?_eq_some_iff, not_or,
    Bool.not_eq_true, and_assoc]

end Scan

structure ProductFile where
  customer : String
  directories : List String
  name : String
  file : FileState

namespace ProductFile

def steps (p : ProductFile) : List String := p.customer :: (p.directories ++ [p.name])

/-- The file is in the tree and counts as a definition: nothing on the way to it is hidden, and
its name ends with the suffix of definitions, which leaves something, but is not that of a
backup copy. -/
structure IsDefinition (suffix : String) (tree : Entry) (p : ProductFile) : Prop where
  held : tree.Holds ("customers" :: p.customer :: "products" :: (p.directories ++ [p.name]))
    p.file
  shown : ∀ name ∈ p.steps, Scan.isHidden name = false
  current : p.name.toList.getLast? ≠ some '~'
  suffixed : ∃ stem, stem ≠ "" ∧ stem ++ suffix = p.name

structure Describes (root suffix : String) (p : ProductFile) (s : Source) : Prop where
  customer : s.customer = p.customer
  nameSpace : s.nameSpace = String.intercalate ":" (p.customer :: p.directories)
  stem : s.stem ++ suffix = p.name
  path : s.path = Scan.pathOf (joinPath root "customers") p.steps
  modified : s.modified = some p.file.modified
  text : s.text = p.file.text

def leaf (p : ProductFile) : Scan.Leaf := { place := p.steps, file := some p.file }

variable {root customers suffix : String} {p q : ProductFile}

theorem leaf_injective : Function.Injective leaf := by
  rintro ⟨customer, directories, name, file⟩ ⟨customer', directories', name', file'⟩ h
  simp only [leaf, steps, Scan.Leaf.mk.injEq, List.cons.injEq, Option.some.injEq] at h
  obtain ⟨⟨rfl, hplace⟩, rfl⟩ := h
  obtain ⟨rfl, hname⟩ := List.append_inj' hplace rfl
  cases hname
  rfl

theorem source?_leaf (customers suffix : String) (p : ProductFile) :
    Scan.source? customers suffix p.leaf = (Scan.definitionStem? suffix p.name).map fun stem =>
      { customer := p.customer
        nameSpace := String.intercalate ":" (p.customer :: p.directories)
        stem
        path := Scan.pathOf customers p.steps
        modified := some p.file.modified
        text := p.file.text } := by
  have hlast : p.steps.getLast? = some p.name := by
    rw [steps, ← List.cons_append, List.getLast?_concat]
  have hinit : p.steps.dropLast = p.customer :: p.directories := by
    rw [steps, ← List.cons_append, List.dropLast_concat]
  rw [Scan.source?, leaf, hlast, hinit, Option.map_eq_bind]
  rfl

theorem describes_of_source? {s : Source}
    (h : Scan.source? (joinPath root "customers") suffix p.leaf = some s) :
    p.Describes root suffix s := by
  rw [source?_leaf, Option.map_eq_some_iff] at h
  obtain ⟨stem, hstem, rfl⟩ := h
  obtain ⟨_, _, _, hname⟩ := Scan.definitionStem?_eq_some_iff.1 hstem
  exact ⟨rfl, rfl, hname, rfl, rfl, rfl⟩

theorem isSome_source?_iff :
    (Scan.source? customers suffix p.leaf).isSome = true ↔ Scan.isHidden p.name = false ∧
      p.name.toList.getLast? ≠ some '~' ∧ ∃ stem, stem ≠ "" ∧ stem ++ suffix = p.name := by
  rw [source?_leaf, Option.isSome_map, Option.isSome_iff_exists]
  simp only [Scan.definitionStem?_eq_some_iff, exists_and_left]

theorem exists_map_leaf_eq {tree : Entry} {entries : List (String × Entry)}
    (hproper : tree.Proper) (hunbroken : tree.Unbroken)
    (h : tree.directory? "customers" = some entries) :
    ∃ files : List ProductFile, files.map leaf = Scan.ofCustomers entries := by
  apply Set.mem_range.1
  rw [Set.range_list_map]
  intro l hl
  obtain ⟨customer, rest, f, rfl, hne, _⟩ :=
    (Scan.mem_ofCustomers_iff_holds hproper hunbroken h).1 hl
  obtain ⟨directories, name, rfl⟩ := List.eq_nil_or_concat' rest |>.resolve_left hne
  exact ⟨⟨customer, directories, name, f⟩, rfl⟩

theorem isDefinition_of_mem {tree : Entry} {entries : List (String × Entry)}
    (hproper : tree.Proper) (h : tree.directory? "customers" = some entries)
    (hleaf : p.leaf ∈ Scan.ofCustomers entries)
    (hsource : (Scan.source? customers suffix p.leaf).isSome = true) :
    p.IsDefinition suffix tree := by
  obtain ⟨customer, rest, hsteps, _, hheld, hshown⟩ :=
    (Scan.mk_mem_ofCustomers_iff hproper h).1 hleaf
  obtain ⟨_, hcurrent, hsuffixed⟩ := isSome_source?_iff.1 hsource
  cases hsteps
  exact ⟨hheld, hshown, hcurrent, hsuffixed⟩

theorem isDefinition_iff {tree : Entry} {entries : List (String × Entry)}
    (hproper : tree.Proper) (hunbroken : tree.Unbroken)
    (h : tree.directory? "customers" = some entries) :
    p.IsDefinition suffix tree ↔
      p.leaf ∈ Scan.ofCustomers entries ∧
      (Scan.source? customers suffix p.leaf).isSome = true := by
  apply Iff.intro
  · intro hp
    rw [Scan.mem_ofCustomers_iff_holds hproper hunbroken h, isSome_source?_iff]
    refine ⟨⟨p.customer, _, p.file, rfl, List.concat_ne_nil _ _, hp.held, hp.shown⟩, ?_,
      hp.current, hp.suffixed⟩
    exact hp.shown p.name (by simp [steps])
  · rintro ⟨hleaf, hsource⟩
    exact isDefinition_of_mem hproper h hleaf hsource

theorem scan_of_map_leaf_eq {tree : Entry} {entries : List (String × Entry)}
    {shown : List ProductFile} (h : tree.directory? "customers" = some entries)
    (hshown : shown.map leaf = Scan.ofCustomers entries) (root suffix : String) :
    scan root suffix tree =
      .ok {
        sources :=
          shown.filterMap fun p => Scan.source? (joinPath root "customers") suffix p.leaf
        broken := [] } := by
  have hbroken : (shown.map leaf).filter (fun leaf => leaf.file = none) = [] := by
    rw [List.filter_eq_nil_iff]
    intro leaf hleaf
    obtain ⟨p, _, rfl⟩ := List.mem_map.1 hleaf
    rw [decide_eq_true_eq]
    exact Option.some_ne_none p.file
  rw [scan_of_directory? h, ← hshown, hbroken, List.filterMap_map]
  rfl

end ProductFile

theorem scan_eq_rootMissing_iff {tree : Entry} (hunbroken : tree.Unbroken)
    (root suffix : String) :
    scan root suffix tree = .error (.rootMissing (joinPath root "customers")) ↔
      tree.directory? "customers" = none := by
  cases hcustomers : tree.directory? "customers" with
  | none =>
    refine iff_of_true ?_ rfl
    rw [scan]
    split
    · rename_i items hchild
      rw [Entry.directory?_eq_some_iff.2 hchild] at hcustomers
      cases hcustomers
    · rename_i cause hchild
      -- a directory that cannot be read is none that can be walked through
      obtain ⟨items, hitems⟩ := hunbroken.exists_directory? hchild rfl
      cases hitems
    · rfl
  | some entries =>
    rw [scan_of_directory? hcustomers]
    apply iff_of_false
    · rintro ⟨⟩
    · rintro ⟨⟩

open Text (bytes)

/-- In a tree that can be walked through a scan fails exactly if there are no customers.
Otherwise it finds the files that count as definitions, each of them once, in the strict order
of the bytes of the names that lead to them. -/
theorem scan_lists_definitions (root suffix : String) (tree : ProductTree)
    (hunbroken : tree.entry.Unbroken) :
    (scan root suffix tree.entry = .error (.rootMissing (joinPath root "customers")) ↔
      tree.entry.directory? "customers" = none) ∧
    ∀ entries, tree.entry.directory? "customers" = some entries → ∃ found files,
      scan root suffix tree.entry = .ok found ∧ found.broken = [] ∧
      (∀ p : ProductFile, p ∈ files ↔ p.IsDefinition suffix tree.entry) ∧
      files.Pairwise (fun p q => p.steps.map bytes < q.steps.map bytes) ∧
      List.Forall₂ (ProductFile.Describes root suffix) files found.sources := by
  constructor
  · exact scan_eq_rootMissing_iff hunbroken root suffix
  · intro entries hentries
    obtain ⟨shown, hshown⟩ := ProductFile.exists_map_leaf_eq tree.proper hunbroken hentries
    have hsorted := (Scan.below_ofCustomers (tree.proper.directory? hentries)).ordered
    rw [← hshown, List.pairwise_map] at hsorted
    let source? := fun p : ProductFile => Scan.source? (joinPath root "customers") suffix p.leaf
    refine ⟨_, shown.filter fun p => (source? p).isSome,
      ProductFile.scan_of_map_leaf_eq hentries hshown root suffix, rfl, ?_, ?_, ?_⟩
    · intro p
      rw [ProductFile.isDefinition_iff tree.proper hunbroken hentries, ← hshown,
        List.mem_map_of_injective ProductFile.leaf_injective, List.mem_filter]
    · refine (hsorted.filter _).imp ?_
      intro p q hpq
      exact List.map_lt (fun _ _ => Text.bytes_lt_bytes) hpq
    · refine (Checks.forall₂_filterMap source? shown).imp ?_
      intro p s hs
      exact ProductFile.describes_of_source? hs

namespace ChartArchive

def file : FileState := { modified := 0, text := some "\x7b\x7d" }

def products : List (String × Entry) :=
  [("ice.json", .file file), ("ice-drift", .directory [("week.json", .file file)]),
    (".git", .directory [("config.json", .file file)]),
    ("ice", .directory [("day.json", .file file)])]

def customers : List (String × Entry) :=
  [("north", .directory [("products", .directory products)])]

theorem proper_single {name : String} {e : Entry} (hname : Path.IsName name) (he : e.Proper) :
    (Entry.directory [(name, e)]).Proper :=
  .directory (List.nodup_singleton _) (by simpa using hname) (by simpa using he)

theorem proper_products : (Entry.directory products).Proper := by
  have hfile {name : String} (hname : Path.IsName name) :
      (Entry.directory [(name, .file file)]).Proper :=
    proper_single hname (.file file)
  refine .directory (by decide) ?_ ?_
  · simp only [products, List.forall_mem_cons, List.not_mem_nil, false_implies,
      implies_true, and_true]
    exact ⟨⟨by decide, by decide⟩, ⟨by decide, by decide⟩, ⟨by decide, by decide⟩,
      ⟨by decide, by decide⟩⟩
  · simp only [products, List.forall_mem_cons, List.not_mem_nil, false_implies,
      implies_true, and_true]
    exact ⟨.file file, hfile ⟨by decide, by decide⟩, hfile ⟨by decide, by decide⟩,
      hfile ⟨by decide, by decide⟩⟩

def tree : ProductTree where
  entry := .directory [("customers", .directory customers)]
  proper := by
    refine proper_single ?_ (proper_single ?_ (proper_single ?_ proper_products))
    · exact ⟨by decide, by decide⟩
    · exact ⟨by decide, by decide⟩
    · exact ⟨by decide, by decide⟩

theorem unbroken_single {name : String} {e : Entry} (h : e.Unbroken) :
    (Entry.directory [(name, e)]).Unbroken :=
  .directory (by simpa using h)

theorem unbroken_tree : tree.entry.Unbroken := by
  refine unbroken_single (unbroken_single (unbroken_single (.directory ?_)))
  simp only [products, List.forall_mem_cons, List.not_mem_nil, false_implies,
    implies_true, and_true]
  exact ⟨.file file, unbroken_single (.file file), unbroken_single (.file file),
    unbroken_single (.file file)⟩

theorem ofCustomers_customers : Scan.ofCustomers customers =
    [{ place := ["north", "ice", "day.json"], file := some file },
      { place := ["north", "ice-drift", "week.json"], file := some file },
      { place := ["north", "ice.json"], file := some file }] := by
  have hhidden : Scan.isHidden ".git" = true := by decide
  have hshown : Scan.isHidden "north" = false ∧ Scan.isHidden "ice.json" = false ∧
      Scan.isHidden "ice-drift" = false ∧ Scan.isHidden "week.json" = false ∧
      Scan.isHidden "ice" = false ∧ Scan.isHidden "day.json" = false := by decide
  have hafter : ¬ "ice.json" ≤ "ice-drift" ∧ ".git" ≤ "ice" ∧ ¬ "ice-drift" ≤ ".git" ∧
      ¬ "ice-drift" ≤ "ice" := by decide
  simp [Scan.ofCustomers, Scan.ofCustomer, customers, products, Entry.child?, Entry.entries?,
    Entry.isDirectory, Scan.branches, Scan.leaves, Entry.isBroken, hhidden, hshown,
    List.mergeSort, List.MergeSort.Internal.splitInTwo, hafter]

end ChartArchive

open ChartArchive in
/-- The charts of a day come before those of a week, and both before the chart that extends
their name by a dot. -/
theorem scan_lists_definitions_charts :
    ∃ found files, tree.entry.Unbroken ∧ scan "" ".json" tree.entry = .ok found ∧
      found.sources.map Source.defaultName =
        ["north:ice:day", "north:ice-drift:week", "north:ice"] ∧
      files.Pairwise (fun p q : ProductFile => p.steps.map bytes < q.steps.map bytes) ∧
      List.Forall₂ (ProductFile.Describes "" ".json") files found.sources := by
  obtain ⟨_, hfound⟩ := scan_lists_definitions "" ".json" tree unbroken_tree
  obtain ⟨found, files, hscan, _, _, hsorted, hdescribed⟩ := hfound customers rfl
  refine ⟨found, files, unbroken_tree, hscan, ?_, hsorted, hdescribed⟩
  have hleaves : scan "" ".json" tree.entry = .ok
      { sources :=
          (Scan.ofCustomers customers).filterMap
            (Scan.source? (joinPath "" "customers") ".json")
        broken :=
          ((Scan.ofCustomers customers).filter fun leaf => leaf.file = none).map fun leaf =>
            Scan.pathOf (joinPath "" "customers") leaf.place } := rfl
  cases hleaves.symm.trans hscan
  rw [ofCustomers_customers]
  decide +kernel

end LayerAtlas
