import PackageIndex.Proofs.Indexes
import PackageIndex.Proofs.Sections

/-!
# Names passed on by packages

An index imports names out of modules, and a module is known by its name only.  A directory and a
source can have the same one: they are told apart as entries (`Site.packageEntry`,
`Site.sourceEntry`), but what both pass on ends in one group.  `attributes_perm` says what such a
group holds, by way of the entries that are imported under its name (`filter_moduleName_perm`).

For a whole run, `generate_agrees_with_children` compares the index of a directory with that of a
child: the group of the child holds what the index of the child imports and, if there is a source of
the same name, what that exposes.  The names of the source cannot be imported out of the child.
`generate_group_mem_iff` tells which names these are, and `twinDisk` has one.
-/

namespace PackageIndex

/-! ## Modules of a directory -/

namespace Path

/-- A name is its stem and its suffix. -/
lemma splitName_append (name : String) : (splitName name).1 ++ (splitName name).2 = name := by
  unfold splitName
  dsimp only
  split_ifs with h
  · obtain ⟨hlength, -, -⟩ := h
    have hsplit := List.takeWhile_append_dropWhile
      (p := fun c => decide (c ≠ '.')) (l := name.toList.reverse)
    have hhead := List.head?_dropWhile_not (fun c => decide (c ≠ '.')) name.toList.reverse
    generalize name.toList.reverse.takeWhile (fun c => decide (c ≠ '.')) = suffix at *
    cases hrest : name.toList.reverse.dropWhile (fun c => decide (c ≠ '.')) with
    | nil =>
      rw [hrest, List.append_nil] at hsplit
      simp [hsplit] at hlength
    | cons c rest =>
      rw [hrest] at hsplit hhead
      obtain rfl : c = '.' := by simpa using hhead
      have hname : name.toList = rest.reverse ++ '.' :: suffix.reverse := by
        rw [← List.reverse_reverse name.toList, ← hsplit]
        simp
      have hstem : name.toList.take (name.toList.length - suffix.length - 1) = rest.reverse := by
        rw [hname, List.take_left' (by simp; omega)]
      rw [hstem, ← String.ofList_append, ← hname, String.ofList_toList]
  · simp

example : splitName "a.b.py" = ("a.b", ".py") ∧ splitName ".py" = (".py", "") := by
  decide +kernel

/-- The name of a path is its stem with its suffix. -/
lemma stem_append_suffix (p : Path) : p.stem ++ p.suffix = p.name :=
  splitName_append p.name

/-- A child has the name by which it is known in its directory. -/
lemma name_child (p : Path) (name : String) : (p.child name).name = name := by
  simp [Path.name, Path.child]

end Path

/-- A child directory as an entry. -/
def Site.packageEntry (s : Site) (name : String) : Entry := ⟨s.path.child name, true⟩

/-- The source of a module as an entry. -/
def Site.sourceEntry (s : Site) (name : String) : Entry :=
  ⟨s.path.child (name ++ sourceSuffix), false⟩

/-- A child directory has its name as an entry. -/
@[simp] lemma Site.name_packageEntry (s : Site) (name : String) :
    (s.packageEntry name).name = name :=
  Path.name_child _ _

/-- A child directory is a directory as an entry. -/
@[simp] lemma Site.isDirectory_packageEntry (s : Site) (name : String) :
    (s.packageEntry name).isDirectory = true := rfl

/-- The source of a module is no directory as an entry. -/
@[simp] lemma Site.isDirectory_sourceEntry (s : Site) (name : String) :
    (s.sourceEntry name).isDirectory = false := rfl

/-- An entry is known by its path and its kind. -/
lemma Entry.eq_mk_iff {e : Entry} {p : Path} {isDirectory : Bool} :
    e = ⟨p, isDirectory⟩ ↔ e.path = p ∧ e.isDirectory = isDirectory := by
  cases e
  simp

/-- What a child passes on belongs to the group of its module. -/
lemma Index.filterMap_attributeOf?_statementsOfChild (source stem : String)
    (statements : List Statement) :
    (statementsOfChild stem statements).filterMap (Index.attributeOf? source) =
      if stem = source then statements.map Statement.bound else [] := by
  rw [statementsOfChild, List.filterMap_cons_none rfl, List.filterMap_map]
  split_ifs with h
  · rw [← List.filterMap_eq_map]
    refine List.filterMap_congr fun s _ => ?_
    simp [attributeOf?, Statement.member?, h]
  · rw [List.filterMap_eq_nil_iff]
    intro s _
    simp [attributeOf?, Statement.member?, h]

namespace Disk

variable {d : Disk} {config : Config} {exclude : List String} {s : Site}

/-- A child is imported under a name if it is the directory of that name or the source of the module
of that name. -/
lemma moduleName_eq_iff {e : Entry} {name : String} (he : e ∈ d.eligible exclude s) :
    e.moduleName = name ↔ e = s.packageEntry name ∨ e = s.sourceEntry name := by
  obtain ⟨-, -, hentry, heligible⟩ := mem_eligible.1 he
  have hpath : e.path = s.path.child e.name := path_of_entry? hentry
  by_cases hd : e.isDirectory = true
  · rw [Entry.moduleName, if_pos hd, Site.packageEntry, Site.sourceEntry, Entry.eq_mk_iff,
      Entry.eq_mk_iff, hpath, Path.child_inj]
    simp [hd]
  · have hfile : e.isDirectory = false := by simpa using hd
    have hsuffix : e.path.suffix = sourceSuffix := suffix_of_isEligible heligible hfile
    have hname : e.name = e.path.stem ++ sourceSuffix := by
      rw [← hsuffix, Path.stem_append_suffix, Entry.name]
    rw [Entry.moduleName, if_neg hd, Site.packageEntry, Site.sourceEntry, Entry.eq_mk_iff,
      Entry.eq_mk_iff, hpath, Path.child_inj, Path.child_inj, ← hpath, hname,
      String.append_left_inj]
    simp [hd]

/-- The children that are imported under the name of a directory are that directory and the source
of that name, if there is one. -/
lemma filter_moduleName_perm {name : String} (hname : s.packageEntry name ∈ d.eligible exclude s) :
    ((d.eligible exclude s).filter (·.moduleName = name)).Perm (s.packageEntry name ::
      if s.sourceEntry name ∈ d.eligible exclude s then [s.sourceEntry name] else []) := by
  have hne : s.packageEntry name ≠ s.sourceEntry name := fun h => by
    simpa using congrArg Entry.isDirectory h
  have hnodup : (d.eligible exclude s).Nodup :=
    List.Nodup.of_map Entry.name ((map_name_eligible s).nodup (nodup_childNames d s.place))
  refine (List.perm_ext_iff_of_nodup (hnodup.filter _) ?_).2 fun e => ?_
  · split_ifs <;> simp [hne]
  · rw [List.mem_filter, decide_eq_true_eq, List.mem_cons]
    constructor
    · rintro ⟨he, hmodule⟩
      refine ((moduleName_eq_iff he).1 hmodule).imp_right ?_
      rintro rfl
      simp [he]
    · rintro (rfl | he)
      · exact ⟨hname, (moduleName_eq_iff hname).2 (Or.inl rfl)⟩
      · split_ifs at he with hsource
        · obtain rfl := List.mem_singleton.1 he
          exact ⟨hsource, (moduleName_eq_iff hsource).2 (Or.inr rfl)⟩
        · simp at he

/-! ## What children pass on -/

/-- The names that a child passes on to the index of its directory. -/
def passedOn (d : Disk) (config : Config) (s : Site) (e : Entry) : List String :=
  if e.isDirectory then (d.aggregated config (s.child e.name)).map Statement.bound
  else d.exposed config e.path

/-- A directory has no statements exactly if no source lies below it. -/
lemma aggregated_eq_nil_iff : d.aggregated config s = [] ↔ ¬ d.HasSource config.exclude s := by
  rw [aggregated, outline_eq, Outline.statements_eq_nil_iff, ← outline_eq, ← Bool.not_eq_true,
    contributes_outline_iff]

/-- Everything that a child directory adds to the index of its parent. -/
lemma mem_aggregated_of_child {name : String} {x : Statement}
    (hname : s.packageEntry name ∈ d.eligible config.exclude s)
    (hsource : d.HasSource config.exclude (s.child name))
    (hx : x ∈ statementsOfChild name (d.aggregated config (s.child name))) :
    x ∈ d.aggregated config s := by
  rw [aggregated_eq, List.mem_flatMap]
  refine ⟨_, hname, ?_⟩
  simpa [Entry.moduleName, hsource] using hx

/-- The names that an index imports out of a module are those that children of that name pass
on. -/
lemma filterMap_attributeOf?_aggregated (d : Disk) (config : Config) (s : Site) (source : String) :
    (d.aggregated config s).filterMap (Index.attributeOf? source) =
      ((d.eligible config.exclude s).filter (·.moduleName = source)).flatMap
        (d.passedOn config s) := by
  have hchild (e : Entry) : (if e.isDirectory then
        if d.HasSource config.exclude (s.child e.name) then
          statementsOfChild e.moduleName (d.aggregated config (s.child e.name))
        else []
      else statementsOfChild e.moduleName ((d.exposed config e.path).map .module)).filterMap
        (Index.attributeOf? source) =
      if e.moduleName = source then d.passedOn config s e else [] := by
    unfold passedOn
    by_cases hd : e.isDirectory = true
    · rw [if_pos hd, if_pos hd]
      by_cases hsource : d.HasSource config.exclude (s.child e.name)
      · rw [if_pos hsource, Index.filterMap_attributeOf?_statementsOfChild]
      · rw [if_neg hsource, aggregated_eq_nil_iff.2 hsource]
        simp
    · rw [if_neg hd, if_neg hd, Index.filterMap_attributeOf?_statementsOfChild]
      simp [Statement.bound, Function.comp_def]
  rw [aggregated_eq, List.filterMap_flatMap]
  simp only [hchild]
  induction d.eligible config.exclude s with
  | nil => rfl
  | cons e es ih =>
    by_cases he : e.moduleName = source <;> simp [he, ih]

/-- The group of a child directory holds what the directory passes on and, if a source has the same
name, also what that source exposes. -/
theorem attributes_perm {name : String}
    (hname : s.packageEntry name ∈ d.eligible config.exclude s) :
    (Index.attributes (d.aggregated config s) config.sort name).Perm
      ((d.aggregated config (s.child name)).map Statement.bound ++
        if s.sourceEntry name ∈ d.eligible config.exclude s then
          d.exposed config (s.sourceEntry name).path
        else []) := by
  refine (Index.attributes_perm _ _ _).trans ?_
  rw [filterMap_attributeOf?_aggregated]
  refine ((filter_moduleName_perm hname).flatMap_right _).trans (List.Perm.of_eq ?_)
  have hpackage : d.passedOn config s (s.packageEntry name) =
      (d.aggregated config (s.child name)).map Statement.bound := by
    simp [passedOn]
  rw [List.flatMap_cons, hpackage]
  split_ifs <;> simp [passedOn]

/-- A directory that is reached by the path of a child of another one is that child. -/
lemma Reaches.packageEntry_mem_eligible {root t : Site} {name : String}
    (hs : d.Reaches exclude root s) (ht : d.Reaches exclude root t)
    (hpath : t.path = s.path.child name) :
    t = s.child name ∧ s.packageEntry name ∈ d.eligible exclude s := by
  cases ht with
  | refl =>
    -- nothing that is reached has a shorter path than the root
    obtain ⟨names, hnames⟩ := (placed_outline d exclude root).exists_descend
      (mem_nodes_outline_iff.2 (Or.inl ⟨s, hs, rfl⟩))
    rw [site_outline, site_outline] at hnames
    have hlength := congrArg (fun p : Path => p.parts.length) hpath
    simp only [hnames, Site.descend, Path.child, List.length_append, List.length_singleton]
      at hlength
    omega
  | @step u e hu he hd =>
    have hchild : u.path.child e.name = s.path.child name := hpath
    obtain ⟨hparent, rfl⟩ := Path.child_inj.1 hchild
    obtain rfl := hu.eq_of_path_eq hs hparent
    obtain ⟨-, -, hentry, -⟩ := mem_eligible.1 he
    have hentryPath : e.path = u.path.child e.name := path_of_entry? hentry
    have heq : e = u.packageEntry e.name := Entry.eq_mk_iff.2 ⟨hentryPath, hd⟩
    exact ⟨rfl, heq ▸ he⟩

end Disk

/-! ## Indexes of packages and of their parents -/

variable {d : Disk} {config : Config} {place : Location} {statements : List Statement} {s : Site}
  {name : String}

section Returned

variable (hn : d.HasNames) (hr : d.resolve config.root = .found place .directory)
  (hl : d.LinksAvoidIndexes place) (hok : (generate config d).1 = .ok statements)
  (hs : d.Reaches config.exclude ⟨config.root, place⟩ s)
  (hwritten : (s.path.child name).child indexName ∈ (generate config d).2.written)

include hn hr hl hok hs hwritten

/-- If a run has written the index of a child by its path, the child is a directory that is reached,
and a source lies below it. -/
lemma packageEntry_mem_eligible_of_ok :
    s.packageEntry name ∈ d.eligible config.exclude s ∧
      d.Reaches config.exclude ⟨config.root, place⟩ (s.child name) ∧
      d.HasSource config.exclude (s.child name) := by
  obtain ⟨t, ht, hsource, heq⟩ := (mem_written_of_ok hn hr hl hok).1 hwritten
  obtain ⟨rfl, hmem⟩ := hs.packageEntry_mem_eligible ht (Path.child_left_inj.1 heq).symm
  exact ⟨hmem, ht, hsource⟩

/-- A directory imports a child directory with an index, and has exactly one group for it. -/
lemma groups_of_ok : .module name ∈ d.aggregated config s ∧
    (Index.groups (d.aggregated config s) config.sort).filter (·.1 == name) =
      [(name, Index.attributes (d.aggregated config s) config.sort name)] := by
  obtain ⟨hmem, -, hsource⟩ := packageEntry_mem_eligible_of_ok hn hr hl hok hs hwritten
  obtain ⟨inner, hinner⟩ := List.exists_mem_of_ne_nil _
    (mt Disk.aggregated_eq_nil_iff.1 (not_not.2 hsource))
  have hmember : .member name inner.bound ∈ d.aggregated config s :=
    Disk.mem_aggregated_of_child hmem hsource
      (List.mem_cons_of_mem _ (List.mem_map_of_mem hinner))
  exact ⟨Disk.mem_aggregated_of_child hmem hsource (by simp [statementsOfChild]),
    Index.filter_groups_of_mem hmember⟩

/-- A source below a child directory lies below the directory. -/
lemma hasSource_of_ok : d.HasSource config.exclude s := by
  obtain ⟨hmodule, -⟩ := groups_of_ok hn hr hl hok hs hwritten
  by_contra hnone
  rw [Disk.aggregated_eq_nil_iff.2 hnone] at hmodule
  simp at hmodule

/-- What is read from the index of a directory and from that of the child. -/
lemma read_indexes_of_ok :
    (d.node? (s.place ++ [indexName]) ≠ some .pipe →
      (generate config d).2.disk.read (s.path.child indexName) =
        .ok (Index.sections (d.aggregated config s) config.sort).text.toUTF8) ∧
    (d.node? (s.place ++ [name, indexName]) ≠ some .pipe →
      (generate config d).2.disk.read ((s.path.child name).child indexName) =
        .ok (Index.sections (d.aggregated config (s.child name)) config.sort).text.toUTF8) := by
  obtain ⟨-, hchild, hsource⟩ := packageEntry_mem_eligible_of_ok hn hr hl hok hs hwritten
  refine ⟨fun hpipe => ?_, fun hpipe => ?_⟩
  · rw [read_index_of_ok hn hr hl hok hs (hasSource_of_ok hn hr hl hok hs hwritten),
      if_neg hpipe]
    rfl
  · have hread := read_index_of_ok hn hr hl hok hchild hsource
    rw [Site.child, List.append_assoc, List.singleton_append, if_neg hpipe] at hread
    exact hread

end Returned

/-- The index of a directory agrees with the index of each child directory that has one: it imports
the directory, and out of it everything that the index of the directory lists.  What it imports out
of the directory is what that index imports, as often as it does; if a source has the same name as
the directory, what the source exposes comes on top.  Only pipes in the places of indexes keep
nothing of what they are given. -/
theorem generate_agrees_with_children (hn : d.HasNames)
    (hr : d.resolve config.root = .found place .directory) (hl : d.LinksAvoidIndexes place)
    (hok : (generate config d).1 = .ok statements)
    (hs : d.Reaches config.exclude ⟨config.root, place⟩ s)
    (hwritten : (s.path.child name).child indexName ∈ (generate config d).2.written) :
    let after := (generate config d).2
    let outer := Index.sections (d.aggregated config s) config.sort
    let inner := Index.sections (d.aggregated config (s.child name)) config.sort
    s.path.child indexName ∈ after.written ∧
      (d.node? (s.place ++ [indexName]) ≠ some .pipe →
        after.disk.read (s.path.child indexName) = .ok outer.text.toUTF8) ∧
      (d.node? (s.place ++ [name, indexName]) ≠ some .pipe →
        after.disk.read ((s.path.child name).child indexName) = .ok inner.text.toUTF8) ∧
      Index.importLine name ∈ outer.lines ∧
      ∃ attrs, outer.groups.filter (·.1 == name) = [(name, attrs)] ∧
        Index.groupLines (name, attrs) <:+: outer.lines ∧
        (∀ a ∈ inner.listing, a ∈ attrs) ∧
        (s.sourceEntry name ∉ d.eligible config.exclude s → attrs.Perm inner.imported) ∧
        (s.sourceEntry name ∈ d.eligible config.exclude s →
          attrs.Perm (inner.imported ++ d.exposed config (s.sourceEntry name).path)) := by
  intro after outer inner
  obtain ⟨hmem, -, -⟩ := packageEntry_mem_eligible_of_ok hn hr hl hok hs hwritten
  obtain ⟨hmodule, hgroup⟩ := groups_of_ok hn hr hl hok hs hwritten
  obtain ⟨hread, hread'⟩ := read_indexes_of_ok hn hr hl hok hs hwritten
  have hsource := hasSource_of_ok hn hr hl hok hs hwritten
  have hattributes := Disk.attributes_perm hmem
  refine ⟨(index_mem_written_of_ok_iff hn hr hl hok hs).2 hsource, hread, hread', ?_, _, hgroup,
    ?_, fun a ha => ?_, fun hnone => ?_, fun htwin => ?_⟩
  · have himport : Index.importLine name ∈ outer.imports.map Index.importLine :=
      List.mem_map_of_mem (Index.mem_imports.2 hmodule)
    simp [Index.Sections.lines, himport]
  · refine Index.Sections.groupLines_infix_lines (List.mem_of_mem_filter (p := (·.1 == name)) ?_)
    exact hgroup.symm ▸ List.mem_singleton_self _
  · exact hattributes.mem_iff.2 (List.mem_append_left _ (Index.mem_listing.1 ha))
  · rw [if_neg hnone, List.append_nil] at hattributes
    exact hattributes.trans (Index.imported_perm _ _).symm
  · rw [if_pos htwin] at hattributes
    exact hattributes.trans ((Index.imported_perm _ _).symm.append_right _)

/-- A package with a source beside a directory of the same name. -/
def twinDisk : Disk where
  entries := [(["p"], .directory), (["p", "m.py"], .file "x = 1\n".toUTF8),
    (["p", "m"], .directory), (["p", "m", "b.py"], .file ByteArray.empty)]
  mentions := [["p"], ["p", "m.py"], ["p", "m"], ["p", "m", "b.py"]]

/-- A run from the package that keeps the order in which the children are listed. -/
def twinConfig : Config := { sampleConfig with sort := false }

/-- Where that run starts. -/
def twinRoot : Site := ⟨twinConfig.root, ["p"]⟩

/-- What the run does and what its two indexes hold. -/
lemma run_twinDisk : twinDisk.resolve twinConfig.root = .found ["p"] .directory ∧
    (generate twinConfig twinDisk).1 =
      .ok [.module "m", .member "m" "x", .module "m", .member "m" "b"] ∧
    (generate twinConfig twinDisk).2.written =
      [⟨"", ["p", "m", "__init__.py"]⟩, ⟨"", ["p", "__init__.py"]⟩] ∧
    Index.sections (twinDisk.aggregated twinConfig twinRoot) twinConfig.sort =
      ⟨["m", "m"], [("m", ["x", "b"])], ["m", "x", "b"]⟩ ∧
    Index.sections (twinDisk.aggregated twinConfig (twinRoot.child "m")) twinConfig.sort =
      ⟨["b"], [], ["b"]⟩ := by
  refine ⟨?_, ?_, ?_, ?_, ?_⟩ <;> decide +kernel

/-- The run writes the index of the directory. -/
lemma child_index_mem_written_twinDisk : (twinRoot.path.child "m").child indexName ∈
    (generate twinConfig twinDisk).2.written := by
  obtain ⟨-, -, hwritten, -, -⟩ := run_twinDisk
  rw [hwritten]
  decide

/-- Out of the directory, the package imports its one name and the name of the source. -/
theorem generate_agrees_with_children_twinDisk :
    let after := (generate twinConfig twinDisk).2
    let outer : Index.Sections := ⟨["m", "m"], [("m", ["x", "b"])], ["m", "x", "b"]⟩
    let inner : Index.Sections := ⟨["b"], [], ["b"]⟩
    after.disk.read (twinRoot.path.child indexName) = .ok outer.text.toUTF8 ∧
      after.disk.read ((twinRoot.path.child "m").child indexName) = .ok inner.text.toUTF8 ∧
      Index.importLine "m" ∈ outer.lines ∧
      ∃ attrs, outer.groups.filter (·.1 == "m") = [("m", attrs)] ∧
        (∀ a ∈ inner.listing, a ∈ attrs) ∧ attrs.Perm (inner.imported ++ ["x"]) := by
  intro after outer inner
  obtain ⟨hresolve, hok, -, houter, hinner⟩ := run_twinDisk
  have htwin : twinRoot.sourceEntry "m" ∈ twinDisk.eligible twinConfig.exclude twinRoot := by
    decide +kernel
  have hexposed : twinDisk.exposed twinConfig (twinRoot.sourceEntry "m").path = ["x"] := by
    decide +kernel
  have hagrees := generate_agrees_with_children (s := twinRoot) (by decide +kernel)
    hresolve (by decide +kernel) hok .refl child_index_mem_written_twinDisk
  rw [houter, hinner, hexposed] at hagrees
  obtain ⟨-, hread, hread', hline, attrs, hgroup, -, hlisting, -, hperm⟩ := hagrees
  exact ⟨hread (by decide +kernel), hread' (by decide +kernel), hline, attrs, hgroup, hlisting,
    hperm htwin⟩

/-- The index of a directory imports a name out of a child directory exactly if the index of the
child lists the name, or a source that has the same name as the child exposes it. -/
theorem generate_group_mem_iff (hn : d.HasNames)
    (hr : d.resolve config.root = .found place .directory) (hl : d.LinksAvoidIndexes place)
    (hok : (generate config d).1 = .ok statements)
    (hs : d.Reaches config.exclude ⟨config.root, place⟩ s)
    (hwritten : (s.path.child name).child indexName ∈ (generate config d).2.written) :
    let after := (generate config d).2
    let outer := Index.sections (d.aggregated config s) config.sort
    let inner := Index.sections (d.aggregated config (s.child name)) config.sort
    (d.node? (s.place ++ [indexName]) ≠ some .pipe →
        after.disk.read (s.path.child indexName) = .ok outer.text.toUTF8) ∧
      (d.node? (s.place ++ [name, indexName]) ≠ some .pipe →
        after.disk.read ((s.path.child name).child indexName) = .ok inner.text.toUTF8) ∧
      ∀ attrs, (name, attrs) ∈ outer.groups → ∀ a, a ∈ attrs ↔
        a ∈ inner.listing ∨ s.sourceEntry name ∈ d.eligible config.exclude s ∧
          a ∈ d.exposed config (s.sourceEntry name).path := by
  intro after outer inner
  obtain ⟨hmem, -, -⟩ := packageEntry_mem_eligible_of_ok hn hr hl hok hs hwritten
  obtain ⟨-, hgroups⟩ := groups_of_ok hn hr hl hok hs hwritten
  obtain ⟨hread, hread'⟩ := read_indexes_of_ok hn hr hl hok hs hwritten
  refine ⟨hread, hread', fun attrs hgroup a => ?_⟩
  obtain rfl : attrs = Index.attributes (d.aggregated config s) config.sort name := by
    have hfilter : (name, attrs) ∈ (Index.groups (d.aggregated config s) config.sort).filter
        (·.1 == name) := List.mem_filter.2 ⟨hgroup, by simp⟩
    simpa [hgroups] using hfilter
  have hlisting : a ∈ inner.listing ↔
      a ∈ (d.aggregated config (s.child name)).map Statement.bound := Index.mem_listing
  rw [(Disk.attributes_perm hmem).mem_iff, List.mem_append, hlisting]
  refine or_congr_right ?_
  split_ifs with htwin <;> simp [htwin]

/-- The package with twins imports what the directory lists and a name that the source of the same
name exposes. -/
theorem generate_group_mem_iff_twinDisk :
    let after := (generate twinConfig twinDisk).2
    let outer : Index.Sections := ⟨["m", "m"], [("m", ["x", "b"])], ["m", "x", "b"]⟩
    let inner : Index.Sections := ⟨["b"], [], ["b"]⟩
    after.disk.read (twinRoot.path.child indexName) = .ok outer.text.toUTF8 ∧
      after.disk.read ((twinRoot.path.child "m").child indexName) = .ok inner.text.toUTF8 ∧
      ∀ a, a ∈ ["x", "b"] ↔ a ∈ inner.listing ∨
        twinRoot.sourceEntry "m" ∈ twinDisk.eligible twinConfig.exclude twinRoot ∧
          a ∈ twinDisk.exposed twinConfig (twinRoot.sourceEntry "m").path := by
  intro after outer inner
  obtain ⟨hresolve, hok, -, houter, hinner⟩ := run_twinDisk
  have hiff := generate_group_mem_iff (s := twinRoot) (by decide +kernel) hresolve
    (by decide +kernel) hok .refl child_index_mem_written_twinDisk
  rw [houter, hinner] at hiff
  obtain ⟨hread, hread', hgroup⟩ := hiff
  exact ⟨hread (by decide +kernel), hread' (by decide +kernel), hgroup _ (by simp)⟩

/-- The index of the package with twins imports a name out of the directory that the index of the
directory does not hold. -/
theorem generate_dangles_twinDisk :
    let after := (generate twinConfig twinDisk).2
    let outer : Index.Sections := ⟨["m", "m"], [("m", ["x", "b"])], ["m", "x", "b"]⟩
    let inner : Index.Sections := ⟨["b"], [], ["b"]⟩
    (∀ place target, twinDisk.node? place ≠ some (.link target)) ∧
      (∃ statements, (generate twinConfig twinDisk).1 = .ok statements) ∧
      after.written = [⟨"", ["p", "m", "__init__.py"]⟩, ⟨"", ["p", "__init__.py"]⟩] ∧
      after.disk.read (twinRoot.path.child indexName) = .ok outer.text.toUTF8 ∧
      after.disk.read ((twinRoot.child "m").path.child indexName) = .ok inner.text.toUTF8 ∧
      ∃ attrs, ("m", attrs) ∈ outer.groups ∧ "x" ∈ attrs ∧ "x" ∉ inner.listing := by
  intro after outer inner
  obtain ⟨hresolve, hok, hwritten, houter, hinner⟩ := run_twinDisk
  obtain ⟨hread, hread'⟩ := read_indexes_of_ok (s := twinRoot) (by decide +kernel)
    hresolve (by decide +kernel) hok .refl child_index_mem_written_twinDisk
  rw [houter] at hread
  rw [hinner] at hread'
  refine ⟨fun place target hlink => ?_, ⟨_, hok⟩, hwritten,
    hread (by decide +kernel), hread' (by decide +kernel), ["x", "b"], by simp [outer], by simp,
    by simp [inner]⟩
  have hplace : place ≠ [] := by
    rintro rfl
    simp [Disk.node?] at hlink
  rw [Disk.node?, if_neg hplace, List.lookup_eq_some_iff] at hlink
  obtain ⟨before, after, hentries, -⟩ := hlink
  have hmem : (place, Node.link target) ∈ twinDisk.entries := by simp [hentries]
  simp [twinDisk] at hmem

end PackageIndex
