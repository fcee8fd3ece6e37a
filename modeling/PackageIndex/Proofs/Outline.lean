import PackageIndex.Proofs.IndexFiles

/-!
# Outlines of package trees

The outline of a directory is the tree that a run walks through when it starts there: packages,
which are directories, and the sources in them.  It is read off the disk as it is before the run.
The children of a package are the eligible children of its directory in the order in which they are
listed (`outline_eq`), and to be an outline is not a matter of depth: every directory that can be
reached through eligible directories is in it (`mem_nodes_outline_iff`).

`Outline.nodes` lists an outline from the bottom up, children before parents.  A node contributes if
a source is at it or below it, which is what `HasSource` says of the disk
(`contributes_outline_iff`).  `Outline.statements` are the statements that the index of a package
holds, and `statements_eq_nil_iff` says that only packages without sources have none.

No node lies inside of one that is listed before it (`Outline.Placed.bottomUp_nodes`), so that every
place occurs once.
-/

namespace PackageIndex

/-- A place as a run comes to it: the path by which it is known, and where that leads. -/
structure Site where
  path : Path
  place : Location
deriving DecidableEq

/-- The child of a directory. -/
def Site.child (s : Site) (name : String) : Site := ⟨s.path.child name, s.place ++ [name]⟩

/-- What lies below a directory at the end of some names. -/
def Site.descend (s : Site) (names : List String) : Site :=
  ⟨{ s.path with parts := s.path.parts ++ names }, s.place ++ names⟩

/-- What a run walks through: sources, and packages with their children in order. -/
inductive Outline where
  | source (site : Site)
  | package (site : Site) (children : List Outline)

namespace Outline

/-- Where a node is. -/
def site : Outline → Site
  | .source s => s
  | .package s _ => s

/-- The node is a source. -/
def isSource : Outline → Bool
  | .source _ => true
  | .package _ _ => false

/-- The name under which a node is imported. -/
def moduleName : Outline → String
  | .source s => s.path.stem
  | .package s _ => s.path.name

mutual

/-- What lies below a node, children before parents. -/
def descendants : Outline → List Outline
  | .source _ => []
  | .package _ children => nodesOfAll children

/-- Some nodes, each behind all that lies below it. -/
def nodesOfAll : List Outline → List Outline
  | [] => []
  | c :: cs => c.descendants ++ c :: nodesOfAll cs

end

/-- A node behind all that lies below it. -/
def nodes (o : Outline) : List Outline := o.descendants ++ [o]

/-- A source is at the node or somewhere below it. -/
def contributes (o : Outline) : Bool := o.nodes.any isSource

/-- The node is a package that gets an index: a source lies below it. -/
def isIndexed (o : Outline) : Bool := ! o.isSource && o.contributes

mutual

/-- The statements that a node exposes, given the names that sources expose. -/
def statements (names : Path → List String) : Outline → List Statement
  | .source s => (names s.path).map .module
  | .package _ children => statementsOfAll names children

/-- The statements that a package with some children passes on: those of the children that
contribute. -/
def statementsOfAll (names : Path → List String) : List Outline → List Statement
  | [] => []
  | c :: cs =>
    (if c.contributes then statementsOfChild c.moduleName (c.statements names) else []) ++
      statementsOfAll names cs

end

end Outline

namespace Disk

variable (d : Disk) (exclude : List String)

/-- The children of a directory that a run visits, in the order in which they are listed: real
directories, and what leads to a regular file and has the suffix of a source; names that match one
of the globs are left out, and so are indexes. -/
def eligible (s : Site) : List Entry :=
  ((d.childNames s.place).filter (! Glob.isExcluded exclude ·)).filterMap fun name =>
    (d.entry? s.path s.place name).filter Entry.isEligible

/-- The outline of a directory down to a depth. -/
def outlineWithin : ℕ → Site → Outline
  | 0, s => .package s []
  | depth + 1, s => .package s ((d.eligible exclude s).map fun e =>
      if e.isDirectory then outlineWithin depth (s.child e.name) else .source (s.child e.name))

/-- The outline of a directory.  Nothing lies deeper than the depth of the disk. -/
def outline (s : Site) : Outline := d.outlineWithin exclude (d.depth + 1) s

/-- A directory that lies at or below another and is reached through eligible directories only. -/
inductive Reaches (root : Site) : Site → Prop
  | refl : Reaches root root
  | step {s : Site} {e : Entry} : Reaches root s → e ∈ d.eligible exclude s →
      e.isDirectory = true → Reaches root (s.child e.name)

/-- An eligible source lies below a directory, at any depth through eligible directories only. -/
def HasSource (s : Site) : Prop :=
  ∃ t e, d.Reaches exclude s t ∧ e ∈ d.eligible exclude t ∧ e.isDirectory = false

end Disk

/-! ## Nodes of an outline -/

namespace Outline

/-- Induction on outlines: a property of all children is a property of the package. -/
@[elab_as_elim, induction_eliminator]
theorem induction {motive : Outline → Prop} (source : ∀ s, motive (.source s))
    (package : ∀ s children, (∀ c ∈ children, motive c) → motive (.package s children)) :
    ∀ o, motive o
  | .source s => source s
  | .package s children => package s children fun c _ => induction source package c

/-- Nothing lies below a source. -/
@[simp] lemma descendants_source (s : Site) : (source s).descendants = [] := by
  rw [descendants]

/-- Below a package lie its children and all that lies below them. -/
lemma descendants_package (s : Site) (children : List Outline) :
    (package s children).descendants = children.flatMap nodes := by
  rw [descendants]
  induction children with
  | nil => rfl
  | cons c cs ih =>
    rw [nodesOfAll, ih, List.flatMap_cons, nodes, List.append_assoc, List.singleton_append]

/-- A node is one of its nodes, beside all that lies below it. -/
@[simp] lemma mem_nodes {o c : Outline} : c ∈ o.nodes ↔ c ∈ o.descendants ∨ c = o := by
  simp [nodes]

/-- What lies below a package is a node of one of its children. -/
lemma mem_descendants_package {s : Site} {children : List Outline} {o : Outline} :
    o ∈ (package s children).descendants ↔ ∃ c ∈ children, o ∈ c.nodes := by
  rw [descendants_package, List.mem_flatMap]

/-- What lies below something below a node lies below the node. -/
lemma mem_descendants_of_mem_nodes {o b c : Outline} (hb : b ∈ o.nodes) (hc : c ∈ b.descendants) :
    c ∈ o.descendants := by
  induction o with
  | source s =>
    rcases mem_nodes.1 hb with hb | rfl
    · simp at hb
    · exact hc
  | package s children ih =>
    rcases mem_nodes.1 hb with hb | rfl
    · obtain ⟨child, hchild, hb⟩ := mem_descendants_package.1 hb
      exact mem_descendants_package.2 ⟨child, hchild, mem_nodes.2 (Or.inl (ih child hchild hb))⟩
    · exact hc

/-- The nodes of a node of an outline are nodes of the outline. -/
lemma mem_nodes_trans {o b c : Outline} (hb : b ∈ o.nodes) (hc : c ∈ b.nodes) : c ∈ o.nodes := by
  rcases mem_nodes.1 hc with hc | rfl
  · exact mem_nodes.2 (Or.inl (mem_descendants_of_mem_nodes hb hc))
  · exact hb

/-- A source contributes. -/
@[simp] lemma contributes_source (s : Site) : (source s).contributes = true := by
  simp [contributes, nodes, isSource]

/-- A node contributes if one of its nodes is a source. -/
lemma contributes_iff {o : Outline} : o.contributes = true ↔ ∃ c ∈ o.nodes, c.isSource = true := by
  simp [contributes]

/-- A package contributes if one of its children does. -/
lemma contributes_package {s : Site} {children : List Outline} :
    (package s children).contributes = true ↔ ∃ c ∈ children, c.contributes = true := by
  rw [contributes_iff]
  constructor
  · rintro ⟨o, ho, hsource⟩
    rcases mem_nodes.1 ho with ho | rfl
    · obtain ⟨c, hc, ho⟩ := mem_descendants_package.1 ho
      exact ⟨c, hc, contributes_iff.2 ⟨o, ho, hsource⟩⟩
    · simp [isSource] at hsource
  · rintro ⟨c, hc, hcontributes⟩
    obtain ⟨o, ho, hsource⟩ := contributes_iff.1 hcontributes
    exact ⟨o, mem_nodes.2 (Or.inl (mem_descendants_package.2 ⟨c, hc, ho⟩)), hsource⟩

/-- Whatever a contributing node lies below contributes. -/
lemma contributes_of_mem_nodes {o c : Outline} (hc : c ∈ o.nodes) (h : c.contributes = true) :
    o.contributes = true := by
  obtain ⟨b, hb, hsource⟩ := contributes_iff.1 h
  exact contributes_iff.2 ⟨b, mem_nodes_trans hc hb, hsource⟩

/-- A package gets an index if it contributes. -/
lemma isIndexed_package (s : Site) (children : List Outline) :
    (package s children).isIndexed = (package s children).contributes := by
  simp [isIndexed, isSource]

/-- A source gets no index. -/
@[simp] lemma isIndexed_source (s : Site) : (source s).isIndexed = false := by
  simp [isIndexed, isSource]

/-- A source exposes its names as they are. -/
@[simp] lemma statements_source (names : Path → List String) (s : Site) :
    (source s).statements names = (names s.path).map .module := by
  rw [statements]

/-- A package passes on the statements of the children that contribute, in order. -/
lemma statements_package (names : Path → List String) (s : Site) (children : List Outline) :
    (package s children).statements names = children.flatMap fun c =>
      if c.contributes then statementsOfChild c.moduleName (c.statements names) else [] := by
  rw [statements]
  induction children with
  | nil => rfl
  | cons c cs ih => rw [statementsOfAll, ih, List.flatMap_cons]

/-- A package has no statements exactly if no source lies below it, whatever sources expose. -/
lemma statements_eq_nil_iff {names : Path → List String} {s : Site} {children : List Outline} :
    (package s children).statements names = [] ↔ (package s children).contributes = false := by
  rw [statements_package, List.flatMap_eq_nil_iff, ← Bool.not_eq_true, contributes_package]
  constructor
  · rintro h ⟨c, hc, hcontributes⟩
    simpa [hcontributes, statementsOfChild] using h c hc
  · intro h c hc
    rw [if_neg fun hcontributes => h ⟨c, hc, hcontributes⟩]

/-! ## Places of nodes -/

/-- Every node of an outline stands where its name leads to, and siblings have different names. -/
inductive Placed : Outline → Prop
  | source (s : Site) : Placed (source s)
  | package {s : Site} {children : List Outline} {names : List String} (nodup : names.Nodup)
      (sites : children.map site = names.map s.child) (placed : ∀ c ∈ children, Placed c) :
      Placed (package s children)

/-- A package is where its directory is. -/
@[simp] lemma site_package (s : Site) (children : List Outline) :
    (package s children).site = s := rfl

/-- A source is where its file is. -/
@[simp] lemma site_source (s : Site) : (source s).site = s := rfl

/-- A node lies at the end of some names below the top of its outline. -/
lemma Placed.exists_descend {o c : Outline} (ho : o.Placed) (hc : c ∈ o.nodes) :
    ∃ names, c.site = o.site.descend names := by
  induction ho with
  | source s =>
    obtain rfl : c = .source s := by simpa using hc
    exact ⟨[], by simp [Site.descend]⟩
  | @package s children names _ hsites _ ih =>
    rcases mem_nodes.1 hc with hc | rfl
    · obtain ⟨child, hchild, hc⟩ := mem_descendants_package.1 hc
      obtain ⟨rest, hrest⟩ := ih child hchild hc
      have hmem : child.site ∈ names.map s.child := hsites ▸ List.mem_map_of_mem hchild
      obtain ⟨name, -, hname⟩ := List.mem_map.1 hmem
      refine ⟨name :: rest, ?_⟩
      rw [hrest, ← hname]
      simp [Site.descend, Site.child, Path.child]
    · exact ⟨[], by simp [Site.descend]⟩

/-- A node stands at or below the top of its outline. -/
lemma Placed.prefix_of_mem_nodes {o c : Outline} (ho : o.Placed) (hc : c ∈ o.nodes) :
    o.site.place <+: c.site.place := by
  obtain ⟨names, hnames⟩ := ho.exists_descend hc
  exact ⟨names, by rw [hnames]; rfl⟩

/-- No node of a list lies inside of one that is listed before it. -/
def BottomUp (os : List Outline) : Prop :=
  os.Pairwise fun a b => ¬ a.site.place <+: b.site.place

/-- A list from the bottom up stays so if nodes are left out. -/
lemma BottomUp.sublist {os ps : List Outline} (h : BottomUp ps) (hs : os.Sublist ps) :
    BottomUp os :=
  List.Pairwise.sublist hs h

/-- No node of the second part of a list lies inside of one of the first part. -/
lemma BottomUp.not_inside {os ps : List Outline} (h : BottomUp (os ++ ps)) {a b : Outline}
    (ha : a ∈ os) (hb : b ∈ ps) : ¬ a.site.place <+: b.site.place :=
  (List.pairwise_append.1 h).2.2 a ha b hb

/-- The nodes of an outline are listed from the bottom up. -/
theorem Placed.bottomUp_nodes {o : Outline} (ho : o.Placed) : BottomUp o.nodes := by
  induction ho with
  | source s => simp [BottomUp, nodes]
  | @package s children names hnodup hsites hplaced ih =>
    -- the children stand at different places of the same depth
    have hchildren : children.Pairwise fun a b => a.site.place ≠ b.site.place := by
      have hplaces : (children.map site).Pairwise fun a b => a.place ≠ b.place := by
        rw [hsites, List.pairwise_map]
        exact hnodup.imp fun hab h => hab (by simpa [Site.child] using h)
      exact (List.pairwise_map (f := site) (R := fun a b => a.place ≠ b.place)).1 hplaces
    have hlength {c : Outline} (hc : c ∈ children) :
        c.site.place.length = s.place.length + 1 := by
      have hmem : c.site ∈ names.map s.child := hsites ▸ List.mem_map_of_mem hc
      obtain ⟨name, -, hname⟩ := List.mem_map.1 hmem
      simp [← hname, Site.child]
    rw [nodes, descendants_package, BottomUp, List.pairwise_append]
    refine ⟨List.pairwise_flatMap.2 ⟨ih, ?_⟩, by simp, ?_⟩
    · refine hchildren.imp_of_mem fun {a b} ha hb hab x hx y hy hxy => hab ?_
      have hax : a.site.place <+: y.site.place :=
        ((hplaced a ha).prefix_of_mem_nodes hx).trans hxy
      have hby : b.site.place <+: y.site.place := (hplaced b hb).prefix_of_mem_nodes hy
      have hpre : a.site.place <+: b.site.place :=
        List.prefix_of_prefix_length_le hax hby (by rw [hlength ha, hlength hb])
      exact hpre.eq_of_length (by rw [hlength ha, hlength hb])
    · intro a ha b hb hab
      obtain rfl : b = .package s children := by simpa using hb
      obtain ⟨c, hc, ha⟩ := List.mem_flatMap.1 ha
      have hle := (((hplaced c hc).prefix_of_mem_nodes ha).trans hab).length_le
      rw [hlength hc] at hle
      simp at hle

/-- Nodes of an outline that have the same path are in the same place. -/
lemma Placed.site_eq_of_path_eq {o a b : Outline} (ho : o.Placed) (ha : a ∈ o.nodes)
    (hb : b ∈ o.nodes) (h : a.site.path = b.site.path) : a.site = b.site := by
  obtain ⟨xs, hxs⟩ := ho.exists_descend ha
  obtain ⟨ys, hys⟩ := ho.exists_descend hb
  rw [hxs, hys] at h ⊢
  obtain rfl : xs = ys := by simpa [Site.descend] using h
  rfl

/-- Nodes of an outline that are in the same place have the same path. -/
lemma Placed.site_eq_of_place_eq {o a b : Outline} (ho : o.Placed) (ha : a ∈ o.nodes)
    (hb : b ∈ o.nodes) (h : a.site.place = b.site.place) : a.site = b.site := by
  obtain ⟨xs, hxs⟩ := ho.exists_descend ha
  obtain ⟨ys, hys⟩ := ho.exists_descend hb
  rw [hxs, hys] at h ⊢
  obtain rfl : xs = ys := by simpa [Site.descend] using h
  rfl

end Outline

namespace Disk

variable {d : Disk} {exclude : List String}

/-! ## Eligible children -/

/-- An entry has the path of its name below the directory. -/
lemma path_of_entry? {p : Path} {place : Location} {name : String} {e : Entry}
    (h : d.entry? p place name = some e) : e.path = p.child name := by
  unfold entry? at h
  dsimp only at h
  split at h
  · simp_all [← Option.some.inj h]
  · simp_all [← Option.some.inj h]
  · split_ifs at h
    simp_all [← Option.some.inj h]
  · simp at h
  · simp at h

/-- An entry has the name that it was made from. -/
lemma name_of_entry? {p : Path} {place : Location} {name : String} {e : Entry}
    (h : d.entry? p place name = some e) : e.name = name := by
  rw [Entry.name, path_of_entry? h]
  simp [Path.name, Path.child]

/-- An eligible child is listed, its name is not excluded, and it can be used and visited. -/
lemma mem_eligible {s : Site} {e : Entry} :
    e ∈ d.eligible exclude s ↔ e.name ∈ d.childNames s.place ∧
      Glob.isExcluded exclude e.name = false ∧ d.entry? s.path s.place e.name = some e ∧
      e.isEligible = true := by
  unfold eligible
  simp only [List.mem_filterMap, List.mem_filter, Option.filter_eq_some_iff, Bool.not_eq_true']
  constructor
  · rintro ⟨name, ⟨hmem, hex⟩, he, hel⟩
    obtain rfl := name_of_entry? he
    exact ⟨hmem, hex, he, hel⟩
  · rintro ⟨hmem, hex, he, hel⟩
    exact ⟨e.name, ⟨hmem, hex⟩, he, hel⟩

/-- The names of entries that are made out of names come in the order of these. -/
lemma map_name_sublist {entryOf : String → Option Entry}
    (h : ∀ {name e}, entryOf name = some e → e.name = name) (names : List String) :
    ((names.filterMap entryOf).map Entry.name).Sublist names := by
  induction names with
  | nil => simp
  | cons name names ih =>
    rw [List.filterMap_cons]
    split
    · exact ih.cons _
    · rename_i e he
      rw [List.map_cons, h he]
      exact ih.cons_cons _

/-- The names of the eligible children are those listed that lead to one. -/
lemma map_name_eligible (s : Site) :
    ((d.eligible exclude s).map Entry.name).Sublist (d.childNames s.place) := by
  unfold eligible
  refine (map_name_sublist (fun he => ?_) _).trans List.filter_sublist
  exact name_of_entry? (Option.filter_eq_some_iff.1 he).1

/-- What a scan reports as a directory is a real one. -/
lemma node?_of_entry? {p : Path} {place : Location} {name : String} {e : Entry}
    (h : d.entry? p place name = some e) (hd : e.isDirectory = true) :
    d.node? (place ++ [name]) = some .directory := by
  unfold entry? at h
  dsimp only at h
  split at h
  · assumption
  · cases h
    simp at hd
  · split_ifs at h
    cases h
    simp at hd
  · simp at h
  · simp at h

/-- What a scan reports as anything else leads to a regular file. -/
lemma resolve_of_entry? {p : Path} {place : Location} {name : String} {e : Entry}
    (hr : d.resolve p = .found place .directory) (hn : IsName name)
    (h : d.entry? p place name = some e) (hd : e.isDirectory = false) :
    ∃ other content, d.resolve (p.child name) = .found other (.file content) := by
  unfold entry? at h
  dsimp only at h
  split at h
  · cases h
    simp at hd
  · rename_i content hnode
    exact ⟨place ++ [name], content, by rw [resolve_child hr hn (by simp [hnode]), hnode]⟩
  · split_ifs at h with hfile
    exact isFile_iff.1 hfile
  · simp at h
  · simp at h

/-- What is visited and is no directory has the suffix of a source. -/
lemma suffix_of_isEligible {e : Entry} (h : e.isEligible = true) (hd : e.isDirectory = false) :
    e.path.suffix = sourceSuffix := by
  simp only [Entry.isEligible, hd, Bool.false_or, Bool.and_eq_true, beq_iff_eq] at h
  exact h.1

/-- What has the suffix of a source stands under a proper name. -/
lemma isName_of_isEligible {e : Entry} (h : e.isEligible = true) (hd : e.isDirectory = false) :
    IsName e.name := by
  have hsuffix : (Path.splitName e.name).2 = sourceSuffix := suffix_of_isEligible h hd
  refine ⟨?_, ?_, ?_⟩ <;> intro hname <;> rw [hname] at hsuffix <;> revert hsuffix <;> decide

/-- An eligible directory is a real one. -/
lemma node?_of_mem_eligible {s : Site} {e : Entry} (h : e ∈ d.eligible exclude s)
    (hd : e.isDirectory = true) : d.node? (s.child e.name).place = some .directory := by
  obtain ⟨-, -, he, -⟩ := mem_eligible.1 h
  exact node?_of_entry? he hd

/-! ## Depth -/

/-- An outline down to a depth is where its directory is. -/
@[simp] lemma site_outlineWithin (depth : ℕ) (s : Site) :
    (d.outlineWithin exclude depth s).site = s := by
  cases depth <;> rw [outlineWithin, Outline.site_package]

/-- An outline of a directory down to a depth is no source. -/
lemma isSource_outlineWithin (depth : ℕ) (s : Site) :
    (d.outlineWithin exclude depth s).isSource = false := by
  cases depth <;> rw [outlineWithin, Outline.isSource]

/-- Outlines down to two depths are the same if no directory lies deeper. -/
lemma outlineWithin_eq (bound : ℕ)
    (hb : ∀ place, d.node? place = some .directory → place.length ≤ bound) :
    ∀ {n m : ℕ} {s : Site}, bound ≤ s.place.length + n → bound ≤ s.place.length + m →
      d.outlineWithin exclude (n + 1) s = d.outlineWithin exclude (m + 1) s := by
  intro n
  induction n with
  | zero =>
    intro m s hn hm
    rw [outlineWithin, outlineWithin]
    congr 1
    refine List.map_congr_left fun e he => ?_
    by_cases hd : e.isDirectory
    · -- a directory below would lie too deep
      have := hb _ (node?_of_mem_eligible he hd)
      simp only [Site.child, List.length_append, List.length_singleton] at this
      omega
    · simp [hd]
  | succ n ih =>
    intro m s hn hm
    rw [outlineWithin, outlineWithin]
    congr 1
    refine List.map_congr_left fun e he => ?_
    by_cases hd : e.isDirectory
    · have hlen := hb _ (node?_of_mem_eligible he hd)
      simp only [Site.child, List.length_append, List.length_singleton] at hlen
      obtain ⟨m, rfl⟩ : ∃ k, m = k + 1 := ⟨m - 1, by omega⟩
      rw [if_pos hd, if_pos hd]
      refine ih ?_ ?_ <;> simp only [Site.child, List.length_append, List.length_singleton] <;>
        omega
    · rw [if_neg hd, if_neg hd]

/-- The children of a package are the eligible children of its directory. -/
theorem outline_eq (d : Disk) (exclude : List String) (s : Site) :
    d.outline exclude s = .package s ((d.eligible exclude s).map fun e =>
      if e.isDirectory then d.outline exclude (s.child e.name) else .source (s.child e.name)) := by
  rw [outline, outlineWithin]
  congr 1
  refine List.map_congr_left fun e he => ?_
  by_cases hd : e.isDirectory
  · have hlen := length_le_depth (node?_of_mem_eligible he hd)
    simp only [Site.child, List.length_append, List.length_singleton] at hlen
    obtain ⟨n, hn⟩ : ∃ k, d.depth = k + 1 := ⟨d.depth - 1, by omega⟩
    rw [if_pos hd, if_pos hd, outline]
    rw [hn]
    refine outlineWithin_eq (n + 1) (fun _ h => hn ▸ length_le_depth h) ?_ ?_ <;>
      simp only [Site.child, List.length_append, List.length_singleton] <;> omega
  · rw [if_neg hd, if_neg hd]

/-- Induction along a walk: what follows for a directory from its eligible subdirectories holds of
every directory. -/
theorem induction_eligible (d : Disk) (exclude : List String) {motive : Site → Prop}
    (step : ∀ s, (∀ e ∈ d.eligible exclude s, e.isDirectory = true → motive (s.child e.name)) →
      motive s) (s : Site) : motive s := by
  induction hn : d.depth + 1 - s.place.length using Nat.strong_induction_on generalizing s with
  | _ n ih =>
    refine step s fun e he hd => ih _ ?_ _ rfl
    have hlen := length_le_depth (node?_of_mem_eligible he hd)
    simp only [Site.child, List.length_append, List.length_singleton] at hlen ⊢
    omega

/-! ## Reached directories -/

/-- What is reached from a directory that is reached is reached. -/
lemma Reaches.trans {r s t : Site} (hs : d.Reaches exclude r s) (ht : d.Reaches exclude s t) :
    d.Reaches exclude r t := by
  induction ht with
  | refl => exact hs
  | step _ he hd ih => exact ih.step he hd

/-- A child of an outline is the outline of an eligible directory or an eligible source. -/
lemma mem_nodes_outline_cases {s : Site} {o : Outline} :
    o ∈ (d.outline exclude s).nodes ↔ o = d.outline exclude s ∨ ∃ e ∈ d.eligible exclude s,
      (e.isDirectory = true ∧ o ∈ (d.outline exclude (s.child e.name)).nodes) ∨
      (e.isDirectory = false ∧ o = .source (s.child e.name)) := by
  rw [Outline.mem_nodes, or_comm]
  refine or_congr_right ?_
  rw [outline_eq, Outline.mem_descendants_package]
  simp only [List.mem_map, exists_exists_and_eq_and]
  refine exists_congr fun e => and_congr_right fun _ => ?_
  by_cases hd : e.isDirectory
  · simp [hd]
  · simp [hd, Outline.nodes]

/-- The nodes of an outline are the outlines of the directories that are reached from its top, and
the eligible sources in these. -/
theorem mem_nodes_outline_iff {r : Site} {o : Outline} :
    o ∈ (d.outline exclude r).nodes ↔
      (∃ s, d.Reaches exclude r s ∧ o = d.outline exclude s) ∨
      ∃ s e, d.Reaches exclude r s ∧ e ∈ d.eligible exclude s ∧ e.isDirectory = false ∧
        o = .source (s.child e.name) := by
  constructor
  · induction r using induction_eligible d exclude with
    | step r ih =>
      intro ho
      rcases mem_nodes_outline_cases.1 ho with rfl | ⟨e, he, ⟨hd, ho⟩ | ⟨hd, rfl⟩⟩
      · exact Or.inl ⟨r, .refl, rfl⟩
      · have hreach : d.Reaches exclude r (r.child e.name) := Reaches.refl.step he hd
        rcases ih e he hd ho with ⟨s, hs, rfl⟩ | ⟨s, f, hs, hf, hfile, rfl⟩
        · exact Or.inl ⟨s, hreach.trans hs, rfl⟩
        · exact Or.inr ⟨s, f, hreach.trans hs, hf, hfile, rfl⟩
      · exact Or.inr ⟨r, e, .refl, he, hd, rfl⟩
  · have hreached {s : Site} (hs : d.Reaches exclude r s) :
        d.outline exclude s ∈ (d.outline exclude r).nodes := by
      induction hs with
      | refl => simp
      | step _ he hd ih =>
        exact Outline.mem_nodes_trans ih (mem_nodes_outline_cases.2 (Or.inr ⟨_, he, Or.inl
          ⟨hd, by simp⟩⟩))
    rintro (⟨s, hs, rfl⟩ | ⟨s, e, hs, he, hd, rfl⟩)
    · exact hreached hs
    · exact Outline.mem_nodes_trans (hreached hs)
        (mem_nodes_outline_cases.2 (Or.inr ⟨e, he, Or.inr ⟨hd, rfl⟩⟩))

/-- An outline is where its directory is. -/
@[simp] lemma site_outline (d : Disk) (exclude : List String) (s : Site) :
    (d.outline exclude s).site = s :=
  site_outlineWithin _ s

/-- An outline of a directory is no source. -/
lemma isSource_outline (d : Disk) (exclude : List String) (s : Site) :
    (d.outline exclude s).isSource = false :=
  isSource_outlineWithin _ s

/-- The outline of a directory contributes exactly if a source lies below the directory. -/
theorem contributes_outline_iff {s : Site} :
    (d.outline exclude s).contributes = true ↔ d.HasSource exclude s := by
  rw [Outline.contributes_iff]
  constructor
  · rintro ⟨o, ho, hsource⟩
    rcases mem_nodes_outline_iff.1 ho with ⟨t, -, rfl⟩ | ⟨t, e, ht, he, hd, rfl⟩
    · simp [isSource_outline] at hsource
    · exact ⟨t, e, ht, he, hd⟩
  · rintro ⟨t, e, ht, he, hd⟩
    exact ⟨_, mem_nodes_outline_iff.2 (Or.inr ⟨t, e, ht, he, hd, rfl⟩), rfl⟩

instance (s : Site) : Decidable (d.HasSource exclude s) :=
  decidable_of_iff _ contributes_outline_iff

/-- Every node of an outline stands where its name leads to. -/
theorem placed_outline (d : Disk) (exclude : List String) (s : Site) :
    (d.outline exclude s).Placed := by
  induction s using induction_eligible d exclude with
  | step s ih =>
    rw [outline_eq]
    have hnodup : ((d.eligible exclude s).map Entry.name).Nodup :=
      (map_name_eligible s).nodup (nodup_childNames d s.place)
    refine .package hnodup ?_ ?_
    · rw [List.map_map, List.map_map]
      refine List.map_congr_left fun e _ => ?_
      by_cases hd : e.isDirectory <;> simp [hd]
    · intro c hc
      obtain ⟨e, he, rfl⟩ := List.mem_map.1 hc
      by_cases hd : e.isDirectory
      · simpa [hd] using ih e he hd
      · simpa [hd] using Outline.Placed.source _

/-- Directories that are reached by the same path are the same. -/
lemma Reaches.eq_of_path_eq {root s t : Site} (hs : d.Reaches exclude root s)
    (ht : d.Reaches exclude root t) (h : s.path = t.path) : s = t := by
  have heq := (placed_outline d exclude root).site_eq_of_path_eq
    (mem_nodes_outline_iff.2 (Or.inl ⟨s, hs, rfl⟩)) (mem_nodes_outline_iff.2 (Or.inl ⟨t, ht, rfl⟩))
    (by simpa using h)
  simpa using heq

/-- Directories that are reached in the same place are the same. -/
lemma Reaches.eq_of_place_eq {root s t : Site} (hs : d.Reaches exclude root s)
    (ht : d.Reaches exclude root t) (h : s.place = t.place) : s = t := by
  have heq := (placed_outline d exclude root).site_eq_of_place_eq
    (mem_nodes_outline_iff.2 (Or.inl ⟨s, hs, rfl⟩)) (mem_nodes_outline_iff.2 (Or.inl ⟨t, ht, rfl⟩))
    (by simpa using h)
  simpa using heq

/-- The path of a directory that is reached leads to it. -/
lemma Reaches.resolve {r s : Site} (hs : d.Reaches exclude r s) (hn : d.HasNames)
    (hr : d.resolve r.path = .found r.place .directory) :
    r.place <+: s.place ∧ d.resolve s.path = .found s.place .directory := by
  induction hs with
  | refl => exact ⟨List.prefix_rfl, hr⟩
  | @step s e _ he hd ih =>
    have hnode : d.node? (s.place ++ [e.name]) = some .directory := node?_of_mem_eligible he hd
    refine ⟨ih.1.trans (List.prefix_append _ _), ?_⟩
    rw [Site.child, resolve_child ih.2 (hn s.place e.name (by simp [hnode])) (by simp [hnode])]
    simp only [hnode]

end Disk

/-! ## A small disk -/

/-- A package with a source, an old index, a directory with nothing in it, a package around a source
that exposes nothing, and a link to that source. -/
def sampleDisk : Disk where
  entries := [(["p"], .directory), (["p", "a.py"], .file "x = 1\n".toUTF8),
    (["p", "__init__.py"], .file "y = 2\n".toUTF8), (["p", "e"], .directory),
    (["p", "q"], .directory), (["p", "q", "b.py"], .file ByteArray.empty),
    (["p", "l.py"], .link "q/b.py")]
  mentions := [["p"], ["p", "a.py"], ["p", "__init__.py"], ["p", "e"], ["p", "q"],
    ["p", "q", "b.py"], ["p", "l.py"]]

/-- A run from the package of the small disk that tells every step. -/
def sampleConfig : Config where
  root := ⟨"", ["p"]⟩
  version := ⟨12⟩
  respectListing := true
  sort := true
  verbose := true
  exclude := []

example : (sampleDisk.outline sampleConfig.exclude ⟨sampleConfig.root, ["p"]⟩).nodes.map
    (·.site.place) = [["p", "a.py"], ["p", "e"], ["p", "q", "b.py"], ["p", "q"], ["p", "l.py"],
      ["p"]] := by
  decide +kernel

end PackageIndex
