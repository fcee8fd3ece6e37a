import PackageIndex.Proofs.Traces

/-!
# How far a run goes

Files are followed through links, and directories are not.  So a run goes through a part of the tree
of real directories, wherever links lead and whatever it writes on the way: `Visits.placed` shows
that the trace of a visit, without what came of it, is an outline in which every node stands where
its name leads to.  What holds of the nodes of such outlines holds of visits: no path is visited
twice, and every visit lies at the end of some names below the root.

The directories that are visited are real ones on the disk before the run
(`Visits.holdsDirectory_of_mem_nodes`).  `generate_visits_once` adds that every run comes to an end,
and that it writes at most one index for each real directory at or below its root.
-/

namespace PackageIndex

/-! ## Real directories -/

namespace Disk

variable {d : Disk}

instance (place : Location) : Decidable (d.HoldsDirectory place) :=
  decidable_of_iff (∀ front ∈ place.inits, d.node? front = some .directory)
    (forall_congr' fun front => by rw [List.mem_inits])

/-- The places of the real directories at or below a location. -/
def directories (d : Disk) (root : Location) : List Location :=
  ([] :: d.entries.map Prod.fst).eraseDups.filter fun place =>
    root <+: place ∧ d.HoldsDirectory place

/-- The directories at or below a location are those that are reached through directories. -/
lemma mem_directories {root place : Location} :
    place ∈ d.directories root ↔ root <+: place ∧ d.HoldsDirectory place := by
  have hentry (h : d.HoldsDirectory place) : place ∈ [] :: d.entries.map Prod.fst := by
    by_cases hp : place = []
    · simp [hp]
    · have hnode : d.node? place ≠ none := by simp [h.node?_eq]
      obtain ⟨node, hmem⟩ := (node?_ne_none_iff hp).1 hnode
      exact List.mem_cons_of_mem _ (List.mem_map_of_mem hmem)
  rw [directories, List.mem_filter, List.mem_eraseDups, decide_eq_true_eq]
  exact and_iff_right_of_imp fun h => hentry h.2

end Disk

/-! ## Traces as outlines -/

namespace Trace

mutual

/-- What was visited, without what came of it. -/
def outline : Trace → Outline
  | .refused s _ | .source s _ => .source s
  | .package s children _ => .package s (outlines children)

/-- The outlines of some traces. -/
def outlines : List Trace → List Outline
  | [] => []
  | t :: ts => t.outline :: outlines ts

end

/-- The outline of a directory that was visited has those of its children. -/
lemma outline_package (s : Site) (children : List Trace)
    (outcome : Except Failure (List Statement)) :
    (package s children outcome).outline = .package s (children.map outline) := by
  rw [outline]
  congr 1
  induction children with
  | nil => rfl
  | cons t ts ih => rw [outlines, ih, List.map_cons]

/-- The outline of a source that was parsed is a source. -/
@[simp] lemma outline_source (s : Site) (names : List String) :
    (source s names).outline = .source s := by
  rw [outline]

/-- The outline of what was refused is a source. -/
@[simp] lemma outline_refused (s : Site) (f : Failure) : (refused s f).outline = .source s := by
  rw [outline]

/-- An outline is where the visit was. -/
@[simp] lemma site_outline (t : Trace) : t.outline.site = t.site := by
  cases t with
  | refused s f => rw [outline_refused]; rfl
  | source s names => rw [outline_source]; rfl
  | package s children outcome => rw [outline_package]; rfl

/-- The nodes of an outline are those of its trace, in the same order. -/
lemma nodes_outline (t : Trace) : t.outline.nodes = t.nodes.map outline := by
  induction t with
  | refused s f => simp [nodes, Outline.nodes]
  | source s names => simp [nodes, Outline.nodes]
  | package s children outcome ih =>
    have hchildren : (children.map outline).flatMap Outline.nodes =
        (children.flatMap nodes).map outline := by
      rw [List.flatMap_map, List.map_flatMap]
      exact List.flatMap_congr ih
    rw [nodes, Outline.nodes, outline_package, Outline.descendants_package, descendants_package,
      hchildren, List.map_append, List.map_singleton, outline_package]

variable {t : Trace}

/-- What was visited lies at the end of some names below the top. -/
lemma exists_descend (ht : t.outline.Placed) {u : Trace} (hu : u ∈ t.nodes) :
    ∃ names, u.site = t.site.descend names := by
  have hmem : u.outline ∈ t.outline.nodes := by
    rw [nodes_outline]
    exact List.mem_map_of_mem hu
  simpa using ht.exists_descend hmem

/-- No two visits are in the same place. -/
lemma nodup_places (ht : t.outline.Placed) : (t.nodes.map (·.site.place)).Nodup := by
  have hne := ht.bottomUp_nodes
  rw [nodes_outline, Outline.BottomUp, List.pairwise_map] at hne
  refine List.pairwise_map.2 (hne.imp fun {u v} h heq => h ?_)
  simp [heq]

/-- No path is visited twice. -/
lemma nodup_paths (ht : t.outline.Placed) : (t.nodes.map (·.site.path)).Nodup := by
  refine List.pairwise_map.2 ?_
  refine (List.pairwise_map.1 (nodup_places ht)).imp_of_mem fun {u v} hu hv hne heq => hne ?_
  obtain ⟨xs, hxs⟩ := exists_descend ht hu
  obtain ⟨ys, hys⟩ := exists_descend ht hv
  rw [hxs, hys] at heq ⊢
  obtain rfl : xs = ys := by simpa [Site.descend] using heq
  rfl

end Trace

/-! ## Visits -/

namespace Visits

variable {config : Config} {d c b : Disk} {s : Site} {t : Trace}

/-- Every visit takes place where its name leads to, and no name is taken twice. -/
lemma placed (h : Visits config c s t b) : t.outline.Placed := by
  -- the sites of children are a part of those of the listed names, which are all different
  induction h using @Visits.rec config _ (fun c s names children b _ =>
    (∀ u ∈ children, u.outline.Placed) ∧
      (children.map Trace.site).Sublist (names.map s.child)) with
  | @leaf c s hleaf =>
    rcases c.leaf_cases config s with ⟨f, h⟩ | ⟨names, h⟩
    · rw [h, Trace.outline_refused]
      exact .source s
    · rw [h, Trace.outline_source]
      exact .source s
  | @package c b e s children outcome hr heach hclose ih =>
    obtain ⟨hplaced, hsites⟩ := ih
    obtain ⟨names, hnames, heq⟩ := List.sublist_map_iff.1 hsites
    have hnodup : names.Nodup :=
      hnames.nodup ((Disk.nodup_childNames c s.place).filter _)
    rw [Trace.outline_package]
    refine .package hnodup ?_ ?_
    · rw [List.map_map, ← heq]
      exact List.map_congr_left fun u _ => u.site_outline
    · intro o ho
      obtain ⟨u, hu, rfl⟩ := List.mem_map.1 ho
      exact hplaced u hu
  | nil => exact ⟨by simp, by simp⟩
  | skip _ _ ih => exact ⟨ih.1, ih.2.trans (List.sublist_cons_self _ _)⟩
  | visit _ _ hvisits _ _ ih ih' =>
    constructor
    · intro u hu
      rcases List.mem_cons.1 hu with rfl | hu
      · exact ih
      · exact ih'.1 u hu
    · rw [List.map_cons, List.map_cons, hvisits.site_eq]
      exact ih'.2.cons_cons _
  | stop _ _ hvisits _ ih =>
    constructor
    · intro u hu
      obtain rfl := List.mem_singleton.1 hu
      exact ih
    · rw [List.map_singleton, List.map_cons, hvisits.site_eq]
      exact List.Sublist.cons_cons _ (List.nil_sublist _)

end Visits

namespace Trace

/-- The directories that were visited. -/
def packages (t : Trace) : List Trace := t.nodes.filter isPackage

/-- Indexes were written for directories that were visited, in the order in which visits ended. -/
lemma written_sublist (t : Trace) :
    t.written.Sublist (t.packages.map (·.site.path.child indexName)) := by
  rw [written, packages]
  induction t.nodes with
  | nil => simp
  | cons u us ih =>
    rcases u with ⟨s, f⟩ | ⟨s, names⟩ | ⟨s, children, f | _ | ⟨x, xs⟩⟩
    · exact ih
    · exact ih
    · exact ih.cons _
    · exact ih.cons _
    · exact ih.cons_cons _

variable {t : Trace}

/-- No directory was visited twice. -/
lemma nodup_package_places (ht : t.outline.Placed) :
    (t.packages.map (·.site.place)).Nodup :=
  (List.filter_sublist.map _).nodup (nodup_places ht)

/-- No index was written twice. -/
lemma nodup_written (ht : t.outline.Placed) : t.written.Nodup := by
  have hpaths : (t.packages.map (·.site.path)).Nodup :=
    (List.filter_sublist.map _).nodup (nodup_paths ht)
  refine t.written_sublist.nodup ?_
  have hindexes := hpaths.map (f := (·.child indexName)) fun p q h => Path.child_left_inj.1 h
  rwa [List.map_map] at hindexes

end Trace

namespace Visits

variable {config : Config} {d b : Disk} {s : Site} {t u : Trace}

/-- Everything that is visited lies at the end of some names below what is visited first. -/
lemma exists_descend (h : Visits config d s t b) (hu : u ∈ t.nodes) :
    ∃ names, u.site = s.descend names := by
  obtain ⟨names, hnames⟩ := Trace.exists_descend h.placed hu
  exact ⟨names, by rw [hnames, h.site_eq]⟩

/-- Every directory that is visited is a real one, and was one before. -/
lemma holdsDirectory_of_mem_packages (h : Visits config d s t b) (hu : u ∈ t.packages) :
    d.HoldsDirectory u.site.place := by
  obtain ⟨hmem, hp⟩ := List.mem_filter.1 hu
  obtain ⟨c, a, hoff, hvisits⟩ := h.exists_of_mem_nodes hmem
  exact hoff.holdsDirectory (hvisits.resolve_of_isPackage hp)

/-- Directories that are visited are directories at or below what is visited first. -/
lemma site_place_mem_directories (h : Visits config d s t b) (hu : u ∈ t.packages) :
    u.site.place ∈ d.directories s.place := by
  obtain ⟨names, hnames⟩ := h.exists_descend (List.mem_filter.1 hu).1
  have hbelow : s.place <+: u.site.place := ⟨names, by rw [hnames]; rfl⟩
  exact Disk.mem_directories.2 ⟨hbelow, h.holdsDirectory_of_mem_packages hu⟩

/-- There are no more indexes than real directories. -/
lemma length_written_le (h : Visits config d s t b) :
    t.written.length ≤ (d.directories s.place).length := by
  have hsubset : t.packages.map (·.site.place) ⊆ d.directories s.place := by
    intro place hplace
    obtain ⟨u, hu, rfl⟩ := List.mem_map.1 hplace
    exact h.site_place_mem_directories hu
  calc t.written.length
      ≤ (t.packages.map (·.site.path.child indexName)).length := t.written_sublist.length_le
    _ = (t.packages.map (·.site.place)).length := by rw [List.length_map, List.length_map]
    _ ≤ (d.directories s.place).length :=
      ((Trace.nodup_package_places h.placed).subperm hsubset).length_le

end Visits

/-! ## Whole runs -/

/-- A run comes to an end, wherever links lead: its visit has a trace, and a visit that may go
deeper than the disk does the same as the run.  Whatever the run visits lies at the end of some
names below its root, and no path is visited twice, so that no source is parsed twice.  Directories
that are visited are real ones, as are all on the way to them, and none of them is visited twice.
No index is written twice, and there are no more indexes than real directories at or below the
root. -/
theorem generate_visits_once {d : Disk} (config : Config) (hn : d.HasNames) :
    let root := d.siteOf config.root
    let written := (generate config d).2.written
    (∀ depth, d.depth < depth →
      (visit config depth config.root).run (Progress.start d) = generate config d) ∧
    (∃ t after, Visits config d root t after) ∧
    (∀ t after, Visits config d root t after →
      (generate config d).1 = t.outcome ∧ written = t.written ∧
      (∀ u ∈ t.nodes, ∃ names, u.site = root.descend names) ∧
      (t.nodes.map (·.site.path)).Nodup ∧
      (∀ u ∈ t.packages, d.HoldsDirectory u.site.place) ∧
      (t.packages.map (·.site.place)).Nodup) ∧
    written.Nodup ∧ written.length ≤ (d.directories root.place).length := by
  intro root written
  have hrun {t : Trace} {after : Disk} (h : Visits config d root t after) :
      generate config d = (t.outcome,
        (Progress.start d).advance config after t.written t.told) :=
    run_visit_root hn h (by omega)
  have hwritten {t : Trace} {after : Disk} (h : Visits config d root t after) :
      written = t.written := by
    unfold written
    rw [hrun h]
    rfl
  obtain ⟨t, after, h⟩ := exists_visits_root config hn
  refine ⟨?_, ⟨t, after, h⟩, ?_, ?_, ?_⟩
  · intro depth hdepth
    rw [hrun h, run_visit_root hn h hdepth]
  · intro t after h
    have hplaced := h.placed
    refine ⟨by rw [hrun h], hwritten h, fun u hu => h.exists_descend hu,
      Trace.nodup_paths hplaced, fun u hu => h.holdsDirectory_of_mem_packages hu,
      Trace.nodup_package_places hplaced⟩
  · rw [hwritten h]
    exact Trace.nodup_written h.placed
  · rw [hwritten h]
    exact h.length_written_le

/-- A package with links to itself and from a directory inside back to it, a link that only leads to
itself, a link where its index belongs, and a link to the index of the directory inside, which is
not there yet. -/
def knottedDisk : Disk where
  entries := [(["p"], .directory), (["p", "a.py"], .file "x = 1\n".toUTF8),
    (["p", "self"], .link "."), (["p", "self.py"], .link "self.py"), (["p", "q"], .directory),
    (["p", "q", "b.py"], .file ByteArray.empty), (["p", "q", "up"], .link ".."),
    (["p", "z.py"], .link "q/__init__.py"), (["p", "__init__.py"], .link "main.txt")]
  mentions := [["p"], ["p", "a.py"], ["p", "self"], ["p", "self.py"], ["p", "q"],
    ["p", "q", "b.py"], ["p", "q", "up"], ["p", "z.py"], ["p", "__init__.py"]]

/-- The run from the knotted package visits both of its directories once and writes as many indexes.
The link to the index of the directory inside leads to a source by the time it is visited. -/
theorem generate_visits_once_knottedDisk :
    knottedDisk.HasNames ∧
      (generate sampleConfig knottedDisk).2.written =
        [⟨"", ["p", "q", "__init__.py"]⟩, ⟨"", ["p", "__init__.py"]⟩] ∧
      knottedDisk.directories ["p"] = [["p"], ["p", "q"]] ∧
      ∃ t after, Visits sampleConfig knottedDisk ⟨⟨"", ["p"]⟩, ["p"]⟩ t after ∧
        (t.nodes.map (·.site.path)).Nodup ∧ t.written.length = 2 := by
  have hnames : knottedDisk.HasNames := by decide +kernel
  have hroot : knottedDisk.siteOf sampleConfig.root = ⟨⟨"", ["p"]⟩, ["p"]⟩ := by decide +kernel
  have hwritten : (generate sampleConfig knottedDisk).2.written =
      [⟨"", ["p", "q", "__init__.py"]⟩, ⟨"", ["p", "__init__.py"]⟩] := by
    decide +kernel
  obtain ⟨-, ⟨t, after, h⟩, htrace, -⟩ := generate_visits_once sampleConfig hnames
  obtain ⟨-, htraced, -, hpaths, -⟩ := htrace t after h
  rw [hroot] at h
  refine ⟨hnames, hwritten, by decide +kernel, t, after, h, hpaths, ?_⟩
  rw [← htraced, hwritten]
  rfl

end PackageIndex
