import PackageIndex.Proofs.History
import PackageIndex.Proofs.Reexports

/-!
# Runs on subtrees

The nodes of a directory that is reached stand together among the nodes of the whole outline
(`Outline.nodes_infix`), and they are all that lies at or below it (`Disk.Reaches.of_prefix`).  So
what a run writes there is a part of the plan of the run on the whole tree, and siblings have no
share in it.

`generate_subtree` compares both runs: the run on the subtree returns if the other one does, it
writes the same indexes with the same texts, and its statements are passed on as one block.
-/

namespace PackageIndex

/-- The path goes on from another one, or is the same. -/
def Path.isWithin (p q : Path) : Bool := p.anchor == q.anchor && q.parts.isPrefixOf p.parts

/-- The indexes of an outline in the order in which they are written. -/
def Outline.indexPaths (o : Outline) : List Path := (o.nodes.filter isIndexed).map indexPath

/-! ## Nodes of subtrees -/

/-- What lies at or below a node stands together in the outline. -/
lemma Outline.nodes_infix {o c : Outline} (hc : c ∈ o.nodes) : c.nodes <:+: o.nodes := by
  induction o with
  | source s =>
    obtain rfl : c = .source s := by simpa using hc
    exact List.infix_rfl
  | package s children ih =>
    rcases mem_nodes.1 hc with hc | rfl
    · obtain ⟨child, hchild, hc⟩ := mem_descendants_package.1 hc
      refine ((ih child hchild hc).trans (List.infix_flatMap_of_mem hchild nodes)).trans ?_
      rw [← descendants_package s]
      exact (List.prefix_append _ _).isInfix
    · exact List.infix_rfl

namespace Disk

variable {d : Disk} {exclude : List String} {root s t : Site}

/-- A directory that is reached lies at the same names below the root by its path and by its
place. -/
lemma Reaches.exists_descend (hs : d.Reaches exclude root s) :
    ∃ names, s = root.descend names := by
  obtain ⟨names, hnames⟩ := (placed_outline d exclude root).exists_descend
    (mem_nodes_outline_iff.2 (Or.inl ⟨s, hs, rfl⟩))
  rw [site_outline, site_outline] at hnames
  exact ⟨names, hnames⟩

/-- Nothing is reached by the name of an index, the root apart. -/
lemma Reaches.eq_or_getLast?_ne (hs : d.Reaches exclude root s) :
    s = root ∨ s.place.getLast? ≠ some indexName := by
  cases hs with
  | refl => exact Or.inl rfl
  | @step u e _ he _ =>
    obtain ⟨-, -, -, heligible⟩ := mem_eligible.1 he
    have hname : e.name ≠ indexName := by
      simp only [Entry.isEligible, Bool.and_eq_true, bne_iff_ne] at heligible
      exact heligible.2
    exact Or.inr (by simpa [Site.child] using hname)

/-- A directory that is reached below another one is reached from there. -/
lemma Reaches.of_prefix (hs : d.Reaches exclude root s) (ht : d.Reaches exclude root t)
    (h : s.place <+: t.place) : d.Reaches exclude s t := by
  induction ht with
  | refl =>
    have hplace : s.place = root.place := by
      obtain ⟨names, rfl⟩ := hs.exists_descend
      exact h.eq_of_length_le (by simp [Site.descend])
    exact hs.eq_of_place_eq .refl hplace ▸ .refl
  | @step u e hu he hd ih =>
    rcases List.prefix_concat_iff.1 h with heq | hprefix
    · obtain rfl := hs.eq_of_place_eq (hu.step he hd) heq
      exact .refl
    · exact (ih hprefix).step he hd

/-- The path of an index is within that of a directory exactly if it is the index of a directory
that is reached from there. -/
lemma Reaches.isWithin_iff (hs : d.Reaches exclude root s) (ht : d.Reaches exclude root t) :
    (t.path.child indexName).isWithin s.path = true ↔ d.Reaches exclude s t := by
  constructor
  · intro h
    refine hs.of_prefix ht ?_
    obtain ⟨xs, rfl⟩ := hs.exists_descend
    obtain ⟨ys, rfl⟩ := ht.exists_descend
    have hprefix : xs <+: ys ++ [indexName] := by
      simpa [Path.isWithin, Site.descend, Path.child, List.append_assoc] using h
    rcases List.prefix_concat_iff.1 hprefix with heq | hprefix
    · -- then a directory would have been reached by the name of an index
      rcases hs.eq_or_getLast?_ne with hroot | hlast
      · have hplace := congrArg (fun u : Site => u.place.length) hroot
        simp [Site.descend, heq] at hplace
      · simp [Site.descend, heq] at hlast
    · simpa [Site.descend] using hprefix
  · intro h
    obtain ⟨names, rfl⟩ := h.exists_descend
    simp [Path.isWithin, Site.descend, Path.child]

/-- The indexes of an outline are those of the directories with sources that are reached. -/
lemma mem_indexPaths {p : Path} : p ∈ (d.outline exclude root).indexPaths ↔
    ∃ t, d.Reaches exclude root t ∧ d.HasSource exclude t ∧ p = t.path.child indexName := by
  rw [Outline.indexPaths, List.mem_map]
  constructor
  · rintro ⟨o, ho, rfl⟩
    obtain ⟨t, ht, hsource, rfl⟩ := mem_filter_isIndexed.1 ho
    exact ⟨t, ht, hsource, indexPath_outline d exclude t⟩
  · rintro ⟨t, ht, hsource, rfl⟩
    exact ⟨_, mem_filter_isIndexed.2 ⟨t, ht, hsource, rfl⟩, indexPath_outline d exclude t⟩

/-- The indexes of a directory that is reached stand together among those of the whole outline. -/
lemma Reaches.indexPaths_infix (hs : d.Reaches exclude root s) :
    (d.outline exclude s).indexPaths <:+: (d.outline exclude root).indexPaths :=
  ((Outline.nodes_infix (mem_nodes_outline_iff.2 (Or.inl ⟨s, hs, rfl⟩))).filter _).map _

/-- The indexes of a directory that is reached are those of the whole outline that lie within it. -/
lemma Reaches.indexPaths_eq_filter (hs : d.Reaches exclude root s) :
    (d.outline exclude s).indexPaths =
      (d.outline exclude root).indexPaths.filter (·.isWithin s.path) := by
  have hwithin : ∀ p ∈ (d.outline exclude root).indexPaths,
      p.isWithin s.path = true ↔ p ∈ (d.outline exclude s).indexPaths := by
    intro p hp
    obtain ⟨t, ht, hsource, rfl⟩ := mem_indexPaths.1 hp
    rw [hs.isWithin_iff ht, mem_indexPaths]
    constructor
    · exact fun hst => ⟨t, hst, hsource, rfl⟩
    · rintro ⟨u, hu, -, heq⟩
      exact ht.eq_of_path_eq (hs.trans hu) (Path.child_left_inj.1 heq) ▸ hu
  -- no index is listed twice, so that those within the directory are listed nowhere else
  have hnodup : (d.outline exclude root).indexPaths.Nodup :=
    (placed_outline d exclude root).nodup_indexPath
  obtain ⟨before, after, happend⟩ := hs.indexPaths_infix
  rw [← happend] at hwithin hnodup ⊢
  obtain ⟨hfirst, -, hlast⟩ := List.nodup_append.1 hnodup
  obtain ⟨-, -, hmiddle⟩ := List.nodup_append.1 hfirst
  have hbefore : before.filter (·.isWithin s.path) = [] := by
    refine List.filter_eq_nil_iff.2 fun p hp hin => ?_
    exact hmiddle p hp p ((hwithin p (by simp [hp])).1 hin) rfl
  have hafter : after.filter (·.isWithin s.path) = [] := by
    refine List.filter_eq_nil_iff.2 fun p hp hin => ?_
    exact hlast p (List.mem_append_right _ ((hwithin p (by simp [hp])).1 hin)) p hp rfl
  have hall : (d.outline exclude s).indexPaths.filter (·.isWithin s.path) =
      (d.outline exclude s).indexPaths :=
    List.filter_eq_self.2 fun p hp => (hwithin p (by simp [hp])).2 hp
  rw [List.filter_append, List.filter_append, hbefore, hafter, hall, List.nil_append,
    List.append_nil]

/-- What a child directory adds stands as one block in the statements of the directory. -/
lemma statementsOfChild_infix_aggregated {config : Config} {name : String}
    (hname : s.packageEntry name ∈ d.eligible config.exclude s)
    (hsource : d.HasSource config.exclude (s.child name)) :
    statementsOfChild name (d.aggregated config (s.child name)) <:+: d.aggregated config s := by
  rw [aggregated_eq d config s]
  have hblock := List.infix_of_mem_flatten (List.mem_map_of_mem (f := fun e : Entry =>
    if e.isDirectory then
      if d.HasSource config.exclude (s.child e.name) then
        statementsOfChild e.moduleName (d.aggregated config (s.child e.name))
      else []
    else statementsOfChild e.moduleName ((d.exposed config e.path).map .module)) hname)
  rw [← List.flatMap_def] at hblock
  simpa [Entry.moduleName, hsource] using hblock

end Disk

/-! ## Runs -/

variable {d c : Disk} {config : Config} {place : Location} {statements : List Statement} {s : Site}

section Returned

variable (hn : d.HasNames) (hr : d.resolve config.root = .found place .directory)
  (hl : d.LinksAvoidIndexes place) (hok : (generate config d).1 = .ok statements)

include hn hr hl hok

/-- If a run returns, so does the run on each directory that it reaches. -/
lemma generate_withRoot_of_ok (hs : d.Reaches config.exclude ⟨config.root, place⟩ s) :
    generate (config.withRoot s.path) d = (.ok (d.aggregated config s),
      (d.outline config.exclude s).plan.foldl (d.settle config) (Progress.start d)) := by
  have hnone := (generate_returns_iff hn hr hl).1 ⟨statements, hok⟩
  have hnode := Disk.mem_nodes_outline_iff.2 (Or.inl ⟨s, hs, rfl⟩)
  refine generate_withRoot hn hr hl hs fun p hp => hnone p ?_
  exact Outline.mem_nodes_trans hnode (Outline.mem_nodes_of_mem_plan hp)

/-- From a disk that differs from this one only in indexes that the run writes, the run does the
same and leaves the same behind. -/
lemma generate_congr_of_ok (h : d.EqOffIndexes c)
    (hc : ∀ other, (∀ s, d.Reaches config.exclude ⟨config.root, place⟩ s →
      d.HasSource config.exclude s → s.place ++ [indexName] ≠ other) →
      c.node? other = d.node? other) :
    (generate config c).1 = (generate config d).1 ∧
      (generate config c).2.written = (generate config d).2.written ∧
      ∀ other, (generate config c).2.disk.node? other = (generate config d).2.disk.node? other := by
  obtain ⟨os, outcome, hos, hnone, hrun⟩ := exists_settled hn hr hl
  have hfirst := hrun d (Disk.EqOffIndexes.refl d)
  have hsecond := hrun c h
  refine ⟨by rw [hfirst, hsecond], ?_, fun other => ?_⟩
  · rw [hfirst, hsecond, Disk.written_foldl_settle, Disk.written_foldl_settle]
    rfl
  by_cases hindex : ∃ s, d.Reaches config.exclude ⟨config.root, place⟩ s ∧
      d.HasSource config.exclude s ∧ s.place ++ [indexName] = other
  · obtain ⟨s, hs, hsource, rfl⟩ := hindex
    -- what is written there does not depend on what was there before
    have hwritten := (index_mem_written_of_ok_iff hn hr hl hok hs).2 hsource
    rw [hfirst, Disk.written_foldl_settle] at hwritten
    obtain ⟨-, ho⟩ := (index_mem_written_iff hos hs).1 hwritten
    have hbottomUp : Outline.BottomUp os :=
      (Disk.placed_outline d config.exclude _).bottomUp_plan.sublist hos.sublist
    have hroot := (hs.resolve hn hr).1
    rw [hfirst, hsecond, node?_index h hl hroot hsource hbottomUp ho (hnone _ ho),
      node?_index (Disk.EqOffIndexes.refl d) hl hroot hsource hbottomUp ho (hnone _ ho)]
  · have hne : ∀ o ∈ os, o.isIndexed = true → o.indexPlace ≠ other := by
      intro o ho hi heq
      have hnode := Outline.mem_nodes_of_mem_plan (hos.subset ho)
      obtain ⟨s, hs, hsource, rfl⟩ := Disk.mem_filter_isIndexed.1 (List.mem_filter.2 ⟨hnode, hi⟩)
      exact hindex ⟨s, hs, hsource, (Disk.indexPlace_outline d config.exclude s).symm.trans heq⟩
    rw [hfirst, hsecond, Disk.node?_foldl_settle (Or.inr hne), Disk.node?_foldl_settle (Or.inr hne)]
    exact hc other fun s hs hsource heq => hindex ⟨s, hs, hsource, heq⟩

end Returned

/-- If a run returns, then the run on each directory that it reaches returns as well.  It writes
those indexes of the whole run that lie within the directory, one after another as there and with
the same texts.  What it returns for a child of the root stands as one block in the statements of
the whole run.  And the whole run does the same after it and leaves the same behind. -/
theorem generate_subtree (hn : d.HasNames) (hr : d.resolve config.root = .found place .directory)
    (hl : d.LinksAvoidIndexes place) (hok : (generate config d).1 = .ok statements)
    (hs : d.Reaches config.exclude ⟨config.root, place⟩ s) :
    let whole := generate config d
    let part := generate (config.withRoot s.path) d
    let again := generate config part.2.disk
    ∃ inner, part.1 = .ok inner ∧
      part.2.written = whole.2.written.filter (·.isWithin s.path) ∧
      part.2.written <:+: whole.2.written ∧
      (∀ p ∈ part.2.written, ∃ content,
        part.2.disk.read p = .ok content ∧ whole.2.disk.read p = .ok content) ∧
      (∀ name, s = Site.child ⟨config.root, place⟩ name → inner ≠ [] →
        (.module name :: inner.map fun x => .member name x.bound) <:+: statements) ∧
      again.1 = whole.1 ∧ again.2.written = whole.2.written ∧
      ∀ other, again.2.disk.node? other = whole.2.disk.node? other := by
  intro whole part again
  have hpart : part = _ := generate_withRoot_of_ok hn hr hl hok hs
  have hwhole : whole.2.written = (d.outline config.exclude ⟨config.root, place⟩).indexPaths := by
    rw [show whole.2.written = _ from written_of_ok hn hr hl hok, Outline.filter_isIndexed_plan]
    rfl
  have hwritten : part.2.written = (d.outline config.exclude s).indexPaths := by
    rw [hpart, Disk.written_foldl_settle, Outline.filter_isIndexed_plan]
    rfl
  refine ⟨d.aggregated config s, by rw [hpart], by rw [hwritten, hwhole, hs.indexPaths_eq_filter],
    by rw [hwritten, hwhole]; exact hs.indexPaths_infix, fun p hp => ?_,
    fun name hname hne => ?_, ?_⟩
  · rw [hwritten] at hp
    obtain ⟨t, ht, hsource, rfl⟩ := Disk.mem_indexPaths.1 hp
    obtain ⟨hroot, hrt⟩ := (hs.trans ht).resolve hn hr
    have hnone := (generate_returns_iff hn hr hl).1 ⟨statements, hok⟩ _
      (Disk.mem_nodes_outline_iff.2 (Or.inl ⟨t, hs.trans ht, rfl⟩))
    refine ⟨_, ?_, read_index_of_ok hn hr hl hok (hs.trans ht) hsource⟩
    rw [hpart]
    exact read_index_settled (Disk.EqOffIndexes.refl d) hl hroot hrt hsource
      (Disk.placed_outline d config.exclude s).bottomUp_plan (ht.outline_mem_plan hsource) hnone
  · -- the directory is an eligible child of the root and adds its statements in its turn
    subst hname
    obtain ⟨-, hmem⟩ := Disk.Reaches.refl.packageEntry_mem_eligible hs rfl
    have hsource := not_not.1 (mt Disk.aggregated_eq_nil_iff.2 hne)
    rw [statements_of_ok hn hr hl hok]
    exact Disk.statementsOfChild_infix_aggregated hmem hsource
  · refine generate_congr_of_ok hn hr hl hok ?_ fun other hother => ?_
    · rw [hpart]
      exact Disk.EqOffIndexes.foldl_settle (Disk.EqOffIndexes.refl d) _
    · rw [hpart]
      refine Disk.node?_foldl_settle (Or.inr fun o ho hi heq => ?_)
      have hnode := Outline.mem_nodes_of_mem_plan ho
      obtain ⟨t, ht, hsource, rfl⟩ := Disk.mem_filter_isIndexed.1 (List.mem_filter.2 ⟨hnode, hi⟩)
      rw [Disk.indexPlace_outline] at heq
      exact hother t (hs.trans ht) hsource heq

/-- The run on the sample project, and the one on its subpackage. -/
theorem generate_subtree_sampleDisk :
    let whole := generate sampleConfig sampleDisk
    let part := generate (sampleConfig.withRoot ⟨"", ["p", "q"]⟩) sampleDisk
    part.1 = .ok [.module "b"] ∧
      whole.1 = .ok [.module "a", .member "a" "x", .module "q", .member "q" "b", .module "l"] ∧
      part.2.written = [⟨"", ["p", "q", "__init__.py"]⟩] ∧
      part.2.written <:+: whole.2.written ∧
      (generate sampleConfig part.2.disk).1 = whole.1 := by
  have hok : (generate sampleConfig sampleDisk).1 =
      .ok [.module "a", .member "a" "x", .module "q", .member "q" "b", .module "l"] := by
    decide +kernel
  have hq : sampleDisk.Reaches sampleConfig.exclude ⟨⟨"", ["p"]⟩, ["p"]⟩
      ⟨⟨"", ["p", "q"]⟩, ["p", "q"]⟩ :=
    .step (e := ⟨⟨"", ["p", "q"]⟩, true⟩) .refl (by decide +kernel) rfl
  obtain ⟨inner, hinner, hwritten, hinfix, -, -, hagain, -⟩ :=
    generate_subtree (by decide) (by decide) (by decide) hok hq
  refine ⟨?_, hok, ?_, hinfix, hagain⟩
  · rw [generate_withRoot_of_ok (by decide) (by decide) (by decide) hok hq]
    decide +kernel
  · rw [hwritten]
    decide +kernel

end PackageIndex
