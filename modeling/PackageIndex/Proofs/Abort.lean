import PackageIndex.Proofs.Indexes

/-!
# Runs that fail

A run fails at the first node of its plan whose work fails, and the plan is read off the disk as it
is before the run.  `generate_aborts` says what such a run leaves behind: the indexes of the
directories that it was done with, each as if it had been the only one to be asked for, and nothing
else.  The directories around the failure are never among these.
-/

namespace PackageIndex

variable {d : Disk} {config : Config} {place : Location}

/-- A directory around a node that comes later is not settled. -/
lemma outline_not_mem_before {before later : List Outline} {failing : Outline} {s : Site}
    (hplan : (d.outline config.exclude ⟨config.root, place⟩).plan = before ++ failing :: later)
    (haround : s.place <+: failing.site.place) : d.outline config.exclude s ∉ before := by
  intro hmem
  have hbottomUp := (Disk.placed_outline d config.exclude ⟨config.root, place⟩).bottomUp_plan
  rw [hplan] at hbottomUp
  refine hbottomUp.not_inside hmem List.mem_cons_self ?_
  rwa [Disk.site_outline]

/-- A run that fails does so at the first node of its plan that fails, and what it has written is
the beginning of what it would have written.  Each of these indexes is the one that a run from its
directory writes; only a pipe in its place keeps nothing of what it is given.  All other places stay
as they are, those of the indexes of the directories around the failing node among them. -/
theorem generate_aborts (hn : d.HasNames) (hr : d.resolve config.root = .found place .directory)
    (hl : d.LinksAvoidIndexes place) {f : Failure} (herror : (generate config d).1 = .error f) :
    let root : Site := ⟨config.root, place⟩
    let o := d.outline config.exclude root
    let after := (generate config d).2
    ∃ before failing later,
      o.plan = before ++ failing :: later ∧
      (∀ p ∈ before, d.failure? config p = none) ∧ d.failure? config failing = some f ∧
      after.written = (before.filter Outline.isIndexed).map Outline.indexPath ∧
      after.written <+: (o.nodes.filter Outline.isIndexed).map Outline.indexPath ∧
      (∀ p, p ∈ after.written ↔ ∃ s, d.Reaches config.exclude root s ∧
        d.HasSource config.exclude s ∧ d.outline config.exclude s ∈ before ∧
        p = s.path.child indexName) ∧
      (∀ s, d.Reaches config.exclude root s → s.path.child indexName ∈ after.written →
        (generate (config.withRoot s.path) d).1 = .ok (d.aggregated config s) ∧
        (generate (config.withRoot s.path) d).2.disk.node? (s.place ++ [indexName]) =
          after.disk.node? (s.place ++ [indexName]) ∧
        (d.node? (s.place ++ [indexName]) ≠ some .pipe →
          after.disk.node? (s.place ++ [indexName]) =
            some (.file (Index.render (d.aggregated config s) config.sort).toUTF8))) ∧
      (∀ other, (∀ s, d.Reaches config.exclude root s → s.path.child indexName ∈ after.written →
        s.place ++ [indexName] ≠ other) → after.disk.node? other = d.node? other) ∧
      ∀ s, d.Reaches config.exclude root s → s.place <+: failing.site.place →
        s.path.child indexName ∉ after.written ∧
        after.disk.node? (s.place ++ [indexName]) = d.node? (s.place ++ [indexName]) := by
  intro root o after
  obtain ⟨before, failing, later, hplan, hnone, hfailing, hafter⟩ :=
    generate_of_error hn hr hl (Disk.EqOffIndexes.refl d) herror
  have hos : before <+: (d.outline config.exclude root).plan := ⟨failing :: later, hplan.symm⟩
  have hwritten : after.written = (before.filter Outline.isIndexed).map Outline.indexPath := by
    rw [show after = _ from hafter, Disk.written_foldl_settle]
    rfl
  refine ⟨before, failing, later, hplan, hnone, hfailing, hwritten, ?_, fun p => ?_,
    fun s hs hmem => ?_, fun other hother => ?_, fun s hs haround => ?_⟩
  · rw [hwritten, ← Outline.filter_isIndexed_plan]
    exact (hos.filter _).map _
  · rw [hwritten, mem_written_iff hos]
  · rw [hwritten] at hmem
    obtain ⟨hsource, ho⟩ := (index_mem_written_iff hos hs).1 hmem
    -- the same in the whole run, as far as it came, and in the run from the directory
    have hnode {os : List Outline} (hos : Outline.BottomUp os)
        (hmem : d.outline config.exclude s ∈ os) :=
      node?_index (Disk.EqOffIndexes.refl d) hl (hs.resolve hn hr).1 hsource hos hmem (hnone _ ho)
    have hbefore := hnode
      ((Disk.placed_outline d config.exclude root).bottomUp_plan.sublist hos.sublist) ho
    rw [show after = _ from hafter, generate_withRoot_of_mem hos hn hr hl hnone hs hsource ho]
    refine ⟨rfl, ?_, fun hpipe => ?_⟩
    · rw [hbefore, hnode (Disk.placed_outline d config.exclude s).bottomUp_nodes (by simp)]
    · rw [hbefore, if_neg hpipe]
  · rw [show after = _ from hafter]
    exact node?_settled hos fun s hs hmem => hother s hs (hwritten ▸ hmem)
  · have hmem : s.path.child indexName ∉ (before.filter Outline.isIndexed).map Outline.indexPath :=
      fun hmem => outline_not_mem_before hplan haround ((index_mem_written_iff hos hs).1 hmem).2
    refine ⟨hwritten ▸ hmem, ?_⟩
    rw [show after = _ from hafter]
    exact node?_index_of_not_mem hos hs hmem

/-- The small disk with one more directory and a source in it that does not hold a tree. -/
def brokenDisk : Disk :=
  (sampleDisk.set ["p", "r"] .directory).set ["p", "r", "c.py"] (.file "(".toUTF8)

/-- The run from the package of the broken disk has indexed the package before the broken one. -/
theorem generate_aborts_brokenDisk :
    let after := (generate sampleConfig brokenDisk).2
    (generate sampleConfig brokenDisk).1 = .error (.notParsed ⟨"", ["p", "r", "c.py"]⟩) ∧
      after.written = [⟨"", ["p", "q", "__init__.py"]⟩] ∧
      after.disk.node? ["p", "q", "__init__.py"] =
        some (.file (Index.render [.module "b"] true).toUTF8) ∧
      after.disk.node? ["p", "r", "__init__.py"] = none := by
  intro after
  have herror : (generate sampleConfig brokenDisk).1 =
      .error (.notParsed ⟨"", ["p", "r", "c.py"]⟩) := by
    decide +kernel
  have hwritten : after.written = [⟨"", ["p", "q", "__init__.py"]⟩] := by
    decide +kernel
  have hroot : brokenDisk.resolve sampleConfig.root = .found ["p"] .directory := by
    decide +kernel
  have hq : brokenDisk.Reaches sampleConfig.exclude ⟨⟨"", ["p"]⟩, ["p"]⟩
      ⟨⟨"", ["p", "q"]⟩, ["p", "q"]⟩ :=
    .step (e := ⟨⟨"", ["p", "q"]⟩, true⟩) .refl (by decide +kernel) rfl
  have hr : brokenDisk.Reaches sampleConfig.exclude ⟨⟨"", ["p"]⟩, ["p"]⟩
      ⟨⟨"", ["p", "r"]⟩, ["p", "r"]⟩ :=
    .step (e := ⟨⟨"", ["p", "r"]⟩, true⟩) .refl (by decide +kernel) rfl
  obtain ⟨before, failing, later, -, -, -, -, -, -, hindex, hother, -⟩ :=
    generate_aborts (by decide +kernel) hroot (by decide +kernel) herror
  refine ⟨herror, hwritten, ?_, hother _ fun s hs hmem heq => ?_⟩
  · have haggregated : brokenDisk.aggregated sampleConfig ⟨⟨"", ["p", "q"]⟩, ["p", "q"]⟩ =
        [.module "b"] := by
      decide +kernel
    rw [← haggregated]
    exact (hindex _ hq (by rw [hwritten]; decide)).2.2 (by decide +kernel)
  · -- the directory around the broken source is not the one that is indexed
    have hplace : s.place ++ [indexName] = ["p", "r"] ++ [indexName] := heq
    obtain rfl := hs.eq_of_place_eq hr (List.append_cancel_right hplace)
    rw [hwritten] at hmem
    exact absurd hmem (by decide)

end PackageIndex
