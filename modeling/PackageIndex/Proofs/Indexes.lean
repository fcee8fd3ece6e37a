import PackageIndex.Proofs.Simulation

/-!
# The indexes that a run writes

Whether a run returns or fails, it has settled some nodes with which its plan begins.  If a
directory is among these, so is everything below it (`mem_of_mem_nodes`).  Its index holds the
statements of the directory (`node?_index`), a run that starts there would return the same ones
(`generate_withRoot_of_mem`), and nothing but such indexes has changed (`node?_settled`).

A run that returns has settled all nodes.  `generate_writes_indexes` says which indexes it has
written, in which order, what they hold, and that nothing else has changed.  A directory without
sources leaves no trace: it has no index, and it adds nothing to the statements of the directory
that it lies in (`Disk.aggregated_eq`).
-/

namespace PackageIndex

variable {d : Disk} {config : Config} {place : Location}

namespace Disk

/-- The nodes with indexes are the directories that are reached and below which a source lies. -/
lemma mem_filter_isIndexed {exclude : List String} {root : Site} {o : Outline} :
    o ∈ (d.outline exclude root).nodes.filter Outline.isIndexed ↔
      ∃ s, d.Reaches exclude root s ∧ d.HasSource exclude s ∧ o = d.outline exclude s := by
  rw [List.mem_filter, mem_nodes_outline_iff]
  constructor
  · rintro ⟨⟨s, hs, rfl⟩ | ⟨s, e, -, -, -, rfl⟩, hi⟩
    · exact ⟨s, hs, isIndexed_outline_iff.1 hi, rfl⟩
    · simp at hi
  · rintro ⟨s, hs, hsource, rfl⟩
    exact ⟨Or.inl ⟨s, hs, rfl⟩, isIndexed_outline_iff.2 hsource⟩

/-- A plan covers what lies below a directory with sources that is reached. -/
lemma Reaches.mem_plan {exclude : List String} {root s : Site} {p : Outline}
    (hs : d.Reaches exclude root s) (hsource : d.HasSource exclude s)
    (hp : p ∈ (d.outline exclude s).nodes) : p ∈ (d.outline exclude root).plan :=
  Outline.mem_plan_of_mem_nodes (mem_nodes_outline_iff.2 (Or.inl ⟨s, hs, rfl⟩))
    (contributes_outline_iff.2 hsource) hp

/-- A plan covers the directories with sources that are reached. -/
lemma Reaches.outline_mem_plan {exclude : List String} {root s : Site}
    (hs : d.Reaches exclude root s) (hsource : d.HasSource exclude s) :
    d.outline exclude s ∈ (d.outline exclude root).plan :=
  hs.mem_plan hsource (by simp)

/-- The statements of a directory are those of its eligible sources and of the subdirectories below
which a source lies; the other subdirectories add nothing. -/
theorem aggregated_eq (d : Disk) (config : Config) (s : Site) :
    d.aggregated config s = (d.eligible config.exclude s).flatMap fun e =>
      if e.isDirectory then
        if d.HasSource config.exclude (s.child e.name) then
          statementsOfChild e.moduleName (d.aggregated config (s.child e.name))
        else []
      else statementsOfChild e.moduleName ((d.exposed config e.path).map .module) := by
  rw [aggregated, outline_eq, Outline.statements_package, List.flatMap_map]
  refine List.flatMap_congr fun e he => ?_
  obtain ⟨-, -, hentry, -⟩ := mem_eligible.1 he
  have hpath : e.path = (s.child e.name).path := path_of_entry? hentry
  by_cases hd : e.isDirectory = true
  · have hname : (d.outline config.exclude (s.child e.name)).moduleName = e.moduleName := by
      rw [outline_eq, Outline.moduleName, Entry.moduleName, if_pos hd, ← hpath]
      rfl
    simp only [hd, if_true, hname, contributes_outline_iff, aggregated]
  · have hname : (Outline.source (s.child e.name)).moduleName = e.moduleName := by
      rw [Outline.moduleName, Entry.moduleName, if_neg hd, hpath]
    simp only [hd, if_false, hname, Outline.contributes_source, if_true,
      Outline.statements_source, hpath, Bool.false_eq_true]

end Disk

/-! ## Settled nodes -/

/-- The index of a settled directory holds the statements of the directory, whatever it held before;
only a pipe in its place keeps nothing of what it is given. -/
theorem node?_index {c : Disk} {root : Location} {s : Site} {os : List Outline}
    (h : d.EqOffIndexes c) (hl : d.LinksAvoidIndexes root) (hroot : root <+: s.place)
    (hsource : d.HasSource config.exclude s)
    (hos : Outline.BottomUp os) (ho : d.outline config.exclude s ∈ os)
    (hf : d.failure? config (d.outline config.exclude s) = none) :
    (os.foldl (d.settle config) (Progress.start c)).disk.node? (s.place ++ [indexName]) =
      some (if d.node? (s.place ++ [indexName]) = some .pipe then .pipe
        else .file (Index.render (d.aggregated config s) config.sort).toUTF8) := by
  have hi := Disk.isIndexed_outline_iff.2 hsource
  rw [← Disk.indexPlace_outline d config.exclude]
  split_ifs with hpipe
  · have hc := h.node?_eq_of_not_file hpipe (by simp)
    rw [Disk.node?_foldl_settle (Or.inl fun hfile => ?_)]
    · exact hc
    · obtain ⟨content, hcontent⟩ := hfile _ hc
      simp at hcontent
  · have hfile : d.HoldsOnlyFile (d.outline config.exclude s).indexPlace :=
      Disk.holdsOnlyFile_indexPlace hl (by rwa [Disk.site_outline]) hi hf hpipe
    exact Disk.node?_foldl_settle_of_mem hos ho hi (h.holdsOnlyFile_iff.1 hfile)

/-- What is read from the index of a settled directory does not depend on what was there before. -/
lemma read_index_settled {c : Disk} {os : List Outline} {s : Site} (h : d.EqOffIndexes c)
    (hl : d.LinksAvoidIndexes place) (hroot : place <+: s.place)
    (hrs : d.resolve s.path = .found s.place .directory)
    (hsource : d.HasSource config.exclude s)
    (hos : Outline.BottomUp os) (ho : d.outline config.exclude s ∈ os)
    (hf : d.failure? config (d.outline config.exclude s) = none) :
    (os.foldl (d.settle config) (Progress.start c)).disk.read (s.path.child indexName) =
      .ok (if d.node? (s.place ++ [indexName]) = some .pipe then ByteArray.empty
        else (Index.render (d.aggregated config s) config.sort).toUTF8) := by
  have hafter : d.EqOffIndexes (os.foldl (d.settle config) (Progress.start c)).disk :=
    Disk.EqOffIndexes.foldl_settle h os
  have hnode := node?_index h hl hroot hsource hos ho hf
  rw [Disk.read_index_eq (hafter.resolve_eq (Or.inl rfl) hrs) fun target hlink =>
    (hafter.linksAvoidIndexes hl).name_ne _ _ target hroot hlink rfl, hnode]
  split_ifs <;> rfl

section Settled

variable {os : List Outline} {s : Site}
  (hos : os <+: (d.outline config.exclude ⟨config.root, place⟩).plan)

include hos

/-- The indexes among some settled nodes. -/
lemma mem_written_iff {p : Path} : p ∈ (os.filter Outline.isIndexed).map Outline.indexPath ↔
    ∃ s, d.Reaches config.exclude ⟨config.root, place⟩ s ∧ d.HasSource config.exclude s ∧
      d.outline config.exclude s ∈ os ∧ p = s.path.child indexName := by
  rw [List.mem_map]
  constructor
  · rintro ⟨o, ho, rfl⟩
    obtain ⟨ho, hi⟩ := List.mem_filter.1 ho
    have hnode := Outline.mem_nodes_of_mem_plan (hos.subset ho)
    obtain ⟨s, hs, hsource, rfl⟩ := Disk.mem_filter_isIndexed.1 (List.mem_filter.2 ⟨hnode, hi⟩)
    exact ⟨s, hs, hsource, ho, Disk.indexPath_outline d config.exclude s⟩
  · rintro ⟨s, hs, hsource, ho, rfl⟩
    exact ⟨_, List.mem_filter.2 ⟨ho, Disk.isIndexed_outline_iff.2 hsource⟩,
      Disk.indexPath_outline d config.exclude s⟩

/-- The index of a directory is among some settled nodes if the directory is. -/
lemma index_mem_written_iff (hs : d.Reaches config.exclude ⟨config.root, place⟩ s) :
    s.path.child indexName ∈ (os.filter Outline.isIndexed).map Outline.indexPath ↔
      d.HasSource config.exclude s ∧ d.outline config.exclude s ∈ os := by
  rw [mem_written_iff hos]
  constructor
  · rintro ⟨t, ht, hsource, ho, heq⟩
    obtain rfl := hs.eq_of_path_eq ht (Path.child_left_inj.1 heq)
    exact ⟨hsource, ho⟩
  · rintro ⟨hsource, ho⟩
    exact ⟨s, hs, hsource, ho, rfl⟩

/-- Whatever is not the place of a settled index stays as it is. -/
lemma node?_settled {other : Location}
    (h : ∀ s, d.Reaches config.exclude ⟨config.root, place⟩ s →
      s.path.child indexName ∈ (os.filter Outline.isIndexed).map Outline.indexPath →
      s.place ++ [indexName] ≠ other) :
    (os.foldl (d.settle config) (Progress.start d)).disk.node? other = d.node? other := by
  refine Disk.node?_foldl_settle (Or.inr fun p hp hi => ?_)
  have hnode := Outline.mem_nodes_of_mem_plan (hos.subset hp)
  obtain ⟨s, hs, hsource, rfl⟩ := Disk.mem_filter_isIndexed.1 (List.mem_filter.2 ⟨hnode, hi⟩)
  rw [Disk.indexPlace_outline]
  exact h s hs ((index_mem_written_iff hos hs).2 ⟨hsource, hp⟩)

/-- The index of a directory that is not settled stays as it is. -/
lemma node?_index_of_not_mem (hs : d.Reaches config.exclude ⟨config.root, place⟩ s)
    (hmem : s.path.child indexName ∉ (os.filter Outline.isIndexed).map Outline.indexPath) :
    (os.foldl (d.settle config) (Progress.start d)).disk.node? (s.place ++ [indexName]) =
      d.node? (s.place ++ [indexName]) := by
  refine node?_settled hos fun t ht htmem heq => hmem ?_
  rwa [← ht.eq_of_place_eq hs (List.append_cancel_right heq)]

/-- Everything below a settled directory is settled, since the plan lists it before. -/
lemma mem_of_mem_nodes (hs : d.Reaches config.exclude ⟨config.root, place⟩ s)
    (hsource : d.HasSource config.exclude s) (ho : d.outline config.exclude s ∈ os)
    {p : Outline} (hp : p ∈ (d.outline config.exclude s).nodes) : p ∈ os := by
  have hbottomUp := (Disk.placed_outline d config.exclude ⟨config.root, place⟩).bottomUp_plan
  have hmem := hs.mem_plan hsource hp
  obtain ⟨later, hlater⟩ := hos
  rw [← hlater] at hbottomUp hmem
  refine (List.mem_append.1 hmem).resolve_right fun hp' => ?_
  exact hbottomUp.not_inside ho hp'
    ((Disk.placed_outline d config.exclude s).prefix_of_mem_nodes hp)

/-- A run that starts at a settled directory returns. -/
lemma generate_withRoot_of_mem (hn : d.HasNames)
    (hr : d.resolve config.root = .found place .directory) (hl : d.LinksAvoidIndexes place)
    (hnone : ∀ p ∈ os, d.failure? config p = none)
    (hs : d.Reaches config.exclude ⟨config.root, place⟩ s)
    (hsource : d.HasSource config.exclude s) (ho : d.outline config.exclude s ∈ os) :
    generate (config.withRoot s.path) d = (.ok (d.aggregated config s),
      (d.outline config.exclude s).nodes.foldl (d.settle config) (Progress.start d)) := by
  have hplan : (d.outline config.exclude s).plan = (d.outline config.exclude s).nodes :=
    if_pos (Disk.contributes_outline_iff.2 hsource)
  rw [← hplan]
  refine generate_withRoot hn hr hl hs fun p hp => hnone p ?_
  exact mem_of_mem_nodes hos hs hsource ho (hplan ▸ hp)

end Settled

/-! ## Runs that return -/

section Returned

variable {statements : List Statement} {s : Site} (hn : d.HasNames)
  (hr : d.resolve config.root = .found place .directory) (hl : d.LinksAvoidIndexes place)
  (hok : (generate config d).1 = .ok statements)

include hn hr hl hok

/-- A run that returns gives the statements of its root. -/
lemma statements_of_ok : statements = d.aggregated config ⟨config.root, place⟩ :=
  (generate_of_ok hn hr hl (Disk.EqOffIndexes.refl d) hok).2.1

/-- A run that returns has written the indexes of its plan, in that order. -/
lemma written_of_ok : (generate config d).2.written =
    ((d.outline config.exclude ⟨config.root, place⟩).plan.filter Outline.isIndexed).map
      Outline.indexPath := by
  obtain ⟨-, -, hafter⟩ := generate_of_ok hn hr hl (Disk.EqOffIndexes.refl d) hok
  rw [hafter, Disk.written_foldl_settle]
  rfl

/-- The indexes that a run has written when it returns. -/
lemma mem_written_of_ok {p : Path} : p ∈ (generate config d).2.written ↔
    ∃ s, d.Reaches config.exclude ⟨config.root, place⟩ s ∧ d.HasSource config.exclude s ∧
      p = s.path.child indexName := by
  rw [written_of_ok hn hr hl hok, mem_written_iff List.prefix_rfl]
  refine exists_congr fun s => and_congr_right fun hs => and_congr_right fun hsource => ?_
  exact and_iff_right (hs.outline_mem_plan hsource)

/-- A run that returns has written the index of a directory exactly if a source lies below it. -/
lemma index_mem_written_of_ok_iff (hs : d.Reaches config.exclude ⟨config.root, place⟩ s) :
    s.path.child indexName ∈ (generate config d).2.written ↔ d.HasSource config.exclude s := by
  rw [written_of_ok hn hr hl hok, index_mem_written_iff List.prefix_rfl hs]
  exact and_iff_left_of_imp fun hsource => hs.outline_mem_plan hsource

/-- A run that returns has written no index twice. -/
lemma nodup_written_of_ok : (generate config d).2.written.Nodup := by
  rw [written_of_ok hn hr hl hok, Outline.filter_isIndexed_plan]
  exact (Disk.placed_outline d config.exclude _).nodup_indexPath

/-- What stands at the place of an index that a run has written when it returns. -/
lemma node?_index_of_ok (hs : d.Reaches config.exclude ⟨config.root, place⟩ s)
    (hsource : d.HasSource config.exclude s) :
    (generate config d).2.disk.node? (s.place ++ [indexName]) =
      some (if d.node? (s.place ++ [indexName]) = some .pipe then .pipe
        else .file (Index.render (d.aggregated config s) config.sort).toUTF8) := by
  obtain ⟨hnone, -, hafter⟩ := generate_of_ok hn hr hl (Disk.EqOffIndexes.refl d) hok
  have hmem := hs.outline_mem_plan hsource
  rw [hafter]
  exact node?_index (Disk.EqOffIndexes.refl d) hl (hs.resolve hn hr).1 hsource
    (Disk.placed_outline d config.exclude _).bottomUp_plan hmem (hnone _ hmem)

/-- What is read from an index that a run has written when it returns. -/
lemma read_index_of_ok (hs : d.Reaches config.exclude ⟨config.root, place⟩ s)
    (hsource : d.HasSource config.exclude s) :
    (generate config d).2.disk.read (s.path.child indexName) =
      .ok (if d.node? (s.place ++ [indexName]) = some .pipe then ByteArray.empty
        else (Index.render (d.aggregated config s) config.sort).toUTF8) := by
  obtain ⟨hnone, -, hafter⟩ := generate_of_ok hn hr hl (Disk.EqOffIndexes.refl d) hok
  have hmem := hs.outline_mem_plan hsource
  obtain ⟨hroot, hrs⟩ := hs.resolve hn hr
  rw [hafter]
  exact read_index_settled (Disk.EqOffIndexes.refl d) hl hroot hrs hsource
    (Disk.placed_outline d config.exclude _).bottomUp_plan hmem (hnone _ hmem)

/-- When a run returns, everything is as before it where no index was written. -/
lemma node?_of_ok {other : Location}
    (hother : ∀ s, d.Reaches config.exclude ⟨config.root, place⟩ s →
      d.HasSource config.exclude s → s.place ++ [indexName] ≠ other) :
    (generate config d).2.disk.node? other = d.node? other := by
  obtain ⟨-, -, hafter⟩ := generate_of_ok hn hr hl (Disk.EqOffIndexes.refl d) hok
  rw [hafter]
  refine node?_settled List.prefix_rfl fun s hs hmem => hother s hs ?_
  exact ((index_mem_written_iff List.prefix_rfl hs).1 hmem).1

end Returned

/-- A run that returns writes an index for each directory that it reaches and below which a source
lies: children before parents, siblings as they are listed, and no index twice.  The index holds
what a run from that directory returns; only a pipe in its place keeps nothing of what it is given.
All other places stay as they are.  Directories without sources have their indexes neither written
nor changed, and nothing of them is in the statements of the directory that they lie in. -/
theorem generate_writes_indexes (hn : d.HasNames)
    (hr : d.resolve config.root = .found place .directory) (hl : d.LinksAvoidIndexes place)
    {statements : List Statement}
    (hok : (generate config d).1 = .ok statements) :
    let root : Site := ⟨config.root, place⟩
    let after := (generate config d).2
    after.written =
        ((d.outline config.exclude root).nodes.filter Outline.isIndexed).map Outline.indexPath ∧
      after.written.Nodup ∧
      (∀ p, p ∈ after.written ↔ ∃ s, d.Reaches config.exclude root s ∧
        d.HasSource config.exclude s ∧ p = s.path.child indexName) ∧
      (∀ s, d.Reaches config.exclude root s → d.HasSource config.exclude s →
        (generate (config.withRoot s.path) d).1 = .ok (d.aggregated config s) ∧
        (d.node? (s.place ++ [indexName]) ≠ some .pipe →
          after.disk.node? (s.place ++ [indexName]) =
            some (.file (Index.render (d.aggregated config s) config.sort).toUTF8))) ∧
      (∀ other, (∀ s, d.Reaches config.exclude root s → d.HasSource config.exclude s →
        s.place ++ [indexName] ≠ other) → after.disk.node? other = d.node? other) ∧
      ∀ s, d.Reaches config.exclude root s →
        (¬ d.HasSource config.exclude s → s.path.child indexName ∉ after.written ∧
          after.disk.node? (s.place ++ [indexName]) = d.node? (s.place ++ [indexName])) ∧
        d.aggregated config s = (d.eligible config.exclude s).flatMap fun e =>
          if e.isDirectory then
            if d.HasSource config.exclude (s.child e.name) then
              statementsOfChild e.moduleName (d.aggregated config (s.child e.name))
            else []
          else statementsOfChild e.moduleName ((d.exposed config e.path).map .module) := by
  intro root after
  obtain ⟨hnone, -, hafter⟩ := generate_of_ok hn hr hl (Disk.EqOffIndexes.refl d) hok
  have hos : (d.outline config.exclude root).plan <+: (d.outline config.exclude root).plan :=
    List.prefix_rfl
  have hwritten : after.written =
      ((d.outline config.exclude root).plan.filter Outline.isIndexed).map Outline.indexPath := by
    rw [show after = _ from hafter, Disk.written_foldl_settle]
    rfl
  have hplan {s : Site} (hs : d.Reaches config.exclude root s)
      (hsource : d.HasSource config.exclude s) :
      d.outline config.exclude s ∈ (d.outline config.exclude root).plan :=
    hs.mem_plan hsource (by simp)
  refine ⟨?_, ?_, fun p => ?_, fun s hs hsource => ⟨?_, ?_⟩, fun other hother => ?_,
    fun s hs => ⟨fun hempty => ?_, Disk.aggregated_eq d config s⟩⟩
  · rw [hwritten, Outline.filter_isIndexed_plan]
  · rw [hwritten, Outline.filter_isIndexed_plan]
    exact (Disk.placed_outline d config.exclude root).nodup_indexPath
  · rw [hwritten, mem_written_iff hos]
    exact ⟨fun ⟨s, hs, hsource, _, hp⟩ => ⟨s, hs, hsource, hp⟩,
      fun ⟨s, hs, hsource, hp⟩ => ⟨s, hs, hsource, hplan hs hsource, hp⟩⟩
  · rw [generate_withRoot_of_mem hos hn hr hl hnone hs hsource (hplan hs hsource)]
  · intro hpipe
    rw [show after = _ from hafter, node?_index (Disk.EqOffIndexes.refl d) hl
      (hs.resolve hn hr).1 hsource (Disk.placed_outline d config.exclude root).bottomUp_plan
      (hplan hs hsource) (hnone _ (hplan hs hsource)), if_neg hpipe]
  · rw [show after = _ from hafter]
    exact node?_settled hos fun s hs hmem =>
      hother s hs ((index_mem_written_iff hos hs).1 hmem).1
  · have hmem : s.path.child indexName ∉
        ((d.outline config.exclude root).plan.filter Outline.isIndexed).map Outline.indexPath :=
      fun hmem => hempty ((index_mem_written_iff hos hs).1 hmem).1
    refine ⟨hwritten ▸ hmem, ?_⟩
    rw [show after = _ from hafter]
    exact node?_index_of_not_mem hos hs hmem

/-- In the small disk the package inside is indexed first and the empty directory is not. -/
theorem generate_writes_indexes_sampleDisk :
    let after := (generate sampleConfig sampleDisk).2
    after.written = [⟨"", ["p", "q", "__init__.py"]⟩, ⟨"", ["p", "__init__.py"]⟩] ∧
      after.disk.node? ["p", "q", "__init__.py"] =
        some (.file (Index.render [.module "b"] true).toUTF8) ∧
      after.disk.node? ["p", "e", "__init__.py"] = none ∧
      sampleDisk.aggregated sampleConfig ⟨⟨"", ["p", "e"]⟩, ["p", "e"]⟩ = [] := by
  intro after
  have hok : (generate sampleConfig sampleDisk).1 =
      .ok [.module "a", .member "a" "x", .module "q", .member "q" "b", .module "l"] := by
    decide +kernel
  have hroot : sampleDisk.resolve sampleConfig.root = .found ["p"] .directory := by decide
  obtain ⟨hwritten, -, -, hindex, -, hrest⟩ :=
    generate_writes_indexes (by decide) hroot (by decide) hok
  have hq : sampleDisk.Reaches sampleConfig.exclude ⟨⟨"", ["p"]⟩, ["p"]⟩
      ⟨⟨"", ["p", "q"]⟩, ["p", "q"]⟩ :=
    .step (e := ⟨⟨"", ["p", "q"]⟩, true⟩) .refl (by decide +kernel) rfl
  have he : sampleDisk.Reaches sampleConfig.exclude ⟨⟨"", ["p"]⟩, ["p"]⟩
      ⟨⟨"", ["p", "e"]⟩, ["p", "e"]⟩ :=
    .step (e := ⟨⟨"", ["p", "e"]⟩, true⟩) .refl (by decide +kernel) rfl
  refine ⟨?_, ?_, ?_, ?_⟩
  · rw [hwritten]
    decide +kernel
  · have haggregated : sampleDisk.aggregated sampleConfig ⟨⟨"", ["p", "q"]⟩, ["p", "q"]⟩ =
        [.module "b"] := by
      decide +kernel
    rw [← haggregated]
    exact (hindex _ hq (by decide +kernel)).2 (by decide +kernel)
  · exact ((hrest _ he).1 (by decide +kernel)).2
  · rw [(hrest _ he).2]
    decide +kernel

end PackageIndex
