import PackageIndex.Proofs.Plan

/-!
# Runs and their plans

A run reads and lists the disk as it is when it comes to a place, with all the indexes that it has
written on the way.  A plan knows only the disk before the run.  `WorksThrough` says that a step of
a run does the same as some nodes of a plan, wherever the run may be; it is closed under sequencing
(`WorksThrough.bind`).

`worksThrough_visit` shows that a visit works through the plan of its outline, by induction on how
deep it may go.  `generate_eq` is what follows for a whole run.  It holds of every disk that agrees
with the one planned for off its indexes, in particular of that disk itself.  Runs that have the
same plan, which fails at the same nodes, settle the same part of it (`exists_settled_of_same`),
whatever else is different about their disks and configurations.
-/

namespace PackageIndex

variable {α β : Type}

namespace Disk

/-- Wherever a run is that started on a disk with these sources, a step works through some nodes and
gives a result. -/
def WorksThrough (d : Disk) (config : Config) (os : List Outline) (result : α) (step : Run α) :
    Prop :=
  ∀ st : Progress, d.EqOffIndexes st.disk →
    step.run st = (do d.play config os; return result : Run α).run st

variable {d : Disk} {config : Config}

/-- A plan changes nothing but indexes, also if it fails. -/
lemma EqOffIndexes.play {st : Progress} (h : d.EqOffIndexes st.disk) (config : Config)
    (os : List Outline) :
    d.EqOffIndexes ((d.play config os).run st).2.disk := by
  rw [run_play]
  exact h.foldl_settle _

/-! ## Rules -/

/-- A step that only returns works through no nodes. -/
lemma worksThrough_pure (a : α) : d.WorksThrough config [] a (pure a) := fun _ _ => rfl

/-- Two steps in a row work through the nodes of the first and then those of the second. -/
lemma WorksThrough.bind {os ps : List Outline} {a : α} {b : β} {step : Run α} {next : α → Run β}
    (h : d.WorksThrough config os a step) (h' : d.WorksThrough config ps b (next a)) :
    d.WorksThrough config (os ++ ps) b (step >>= next) := by
  intro st hst
  rw [Run.run_bind, h st hst, play_append, bind_assoc, Run.run_bind, Run.run_bind]
  have hafter := hst.play config os
  rcases hplay : (d.play config os).run st with ⟨_ | _, t⟩
  · rfl
  · rw [hplay] at hafter
    exact h' t hafter

/-- A step that fails and moves a run on as the work on a node does works through that node. -/
lemma worksThrough_singleton {o : Outline} {a : α} {step : Run α}
    (h : ∀ st : Progress, d.EqOffIndexes st.disk → step.run st =
      match d.failure? config o with
      | some f => (.error f, st)
      | none => (.ok a, d.settle config st o)) :
    d.WorksThrough config [o] a step := by
  intro st hst
  rw [h st hst, play_cons, play_nil, bind_pure, Run.run_bind, run_perform]
  cases d.failure? config o <;> rfl

/-- Reading where the run is has no effect. -/
lemma WorksThrough.of_get {os : List Outline} {a : α} {next : Progress → Run α}
    (h : ∀ st : Progress, d.EqOffIndexes st.disk → d.WorksThrough config os a (next st)) :
    d.WorksThrough config os a (get >>= next) := by
  intro st hst
  rw [Run.run_bind, Run.run_get]
  exact h st hst st hst

/-- Steps for the members of a list work through the nodes of each in turn. -/
lemma worksThrough_mapM {names : List String} {nodes : String → List Outline}
    {parts : String → List α} {step : String → Run (List α)}
    (h : ∀ name ∈ names, d.WorksThrough config (nodes name) (parts name) (step name)) :
    d.WorksThrough config (names.flatMap nodes) (names.map parts) (names.mapM step) := by
  induction names with
  | nil =>
    rw [List.mapM_nil]
    exact worksThrough_pure []
  | cons name names ih =>
    rw [List.mapM_cons, List.flatMap_cons, List.map_cons]
    refine (h name (by simp)).bind ?_
    rw [← List.append_nil (names.flatMap nodes)]
    exact (ih fun other hother => h other (List.mem_cons_of_mem _ hother)).bind
      (worksThrough_pure _)

/-! ## Nodes -/

/-- A source is read as planned wherever its path leads to the same file. -/
lemma worksThrough_visitSource {s : Site}
    (hs : ∀ c, d.EqOffIndexes c → c.resolve s.path = d.resolve s.path) :
    d.WorksThrough config [.source s] ((d.exposed config s.path).map .module)
      (visitSource config s.path) := by
  unfold visitSource visitSource.liftExcept
  refine WorksThrough.of_get fun st hst => ?_
  rw [parse_eq_of_resolve (hs st.disk hst)]
  refine worksThrough_singleton fun t _ => ?_
  rw [Run.run_bind, Run.run_mk_pure]
  cases hparse : d.parse s.path config.version with
  | error f => simp only [failure?, hparse]
  | ok tree =>
    simp only [failure?, hparse, Run.run_bind, Run.run_tell, Run.run_pure]
    simp [settle, notice, exposed, hparse]

/-- The index of a directory is written as planned, if there is anything to write. -/
lemma worksThrough_finishDirectory {root : Location} {s : Site} {children : List Outline}
    (hl : d.LinksAvoidIndexes root) (hroot : root <+: s.place)
    (hr : d.resolve s.path = .found s.place .directory) :
    d.WorksThrough config
      (if (Outline.package s children).contributes then [Outline.package s children] else []) ()
      (finishDirectory config s.path
        ((Outline.package s children).statements (d.exposed config))) := by
  unfold finishDirectory
  by_cases hc : (Outline.package s children).contributes = true
  · have hne : (Outline.package s children).statements (d.exposed config) ≠ [] := by
      simp [Outline.statements_eq_nil_iff, hc]
    rw [if_pos hc, if_pos (by simpa using hne)]
    refine worksThrough_singleton fun st hst => ?_
    have hwrite := writeIndex_eq ((Outline.package s children).statements (d.exposed config))
      config.sort (hst.resolve_eq (Or.inl rfl) hr)
      fun target h => (hst.linksAvoidIndexes hl).name_ne _ _ target hroot h rfl
    simp only [Run.run_bind, Run.run_get, Run.run_mk_pure, Run.run_modify, Run.run_tell, hwrite]
    by_cases hdir : d.node? (s.place ++ [indexName]) = some .directory
    · rw [if_pos (hst.node?_eq_directory_iff.2 hdir)]
      simp [failure?, hc, Outline.indexPlace, Outline.indexPath, hdir]
    · rw [if_neg (mt hst.node?_eq_directory_iff.1 hdir)]
      simp [failure?, hc, Outline.indexPlace, Outline.indexPath, hdir, settle, notice,
        Outline.isIndexed_package, indexText]
  · have hnil : (Outline.package s children).statements (d.exposed config) = [] := by
      rw [Outline.statements_eq_nil_iff]
      simpa using hc
    rw [if_neg hc, hnil]
    exact worksThrough_pure ()

/-! ## Children -/

/-- A package that contributes nothing is passed over, and any other node adds its statements. -/
lemma worksThrough_statementsOfEntry {o : Outline} {e : Entry} (hpath : e.path = o.site.path)
    (hd : e.isDirectory = ! o.isSource) (names : Path → List String) :
    d.WorksThrough config (if o.contributes then [] else [o])
      (if o.contributes then statementsOfChild o.moduleName (o.statements names) else [])
      (statementsOfEntry config e (o.statements names)) := by
  have hname : e.moduleName = o.moduleName := by
    cases o <;> simp_all [Entry.moduleName, Outline.moduleName, Entry.name, Outline.isSource]
  unfold statementsOfEntry
  rw [hname, hd]
  cases o with
  | source s =>
    rw [if_pos (by simp), if_pos (by simp), if_neg (by simp [Outline.isSource])]
    exact worksThrough_pure _
  | package s children =>
    by_cases hc : (Outline.package s children).contributes = true
    · have hne : (Outline.package s children).statements names ≠ [] := by
        simp [Outline.statements_eq_nil_iff, hc]
      rw [if_pos hc, if_pos hc, if_neg (by simpa using fun _ => hne)]
      exact worksThrough_pure _
    · have hnil : (Outline.package s children).statements names = [] := by
        simpa [Outline.statements_eq_nil_iff] using hc
      rw [if_neg hc, if_neg hc, hnil, if_pos (by simp [Outline.isSource])]
      refine worksThrough_singleton fun st _ => ?_
      simp only [Run.run_bind, Run.run_tell, Run.run_pure]
      simp [failure?, settle, notice, hc, Outline.isIndexed_package, hpath]

/-- A child whose visit works through its plan is worked through with everything below it. -/
lemma WorksThrough.child {o : Outline} {e : Entry} {visit : Run (List Statement)}
    (h : d.WorksThrough config o.plan (o.statements (d.exposed config)) visit)
    (hpath : e.path = o.site.path) (hd : e.isDirectory = ! o.isSource) :
    d.WorksThrough config o.nodes
      (if o.contributes then statementsOfChild o.moduleName (o.statements (d.exposed config))
        else []) (visit >>= statementsOfEntry config e) := by
  have hnodes : o.nodes = o.plan ++ if o.contributes then [] else [o] := by
    unfold Outline.plan
    split <;> simp [Outline.nodes]
  rw [hnodes]
  exact h.bind (worksThrough_statementsOfEntry hpath hd _)

/-- The visit of a source works through the source alone, however deep it may go. -/
lemma worksThrough_visit_source {s : Site} {place : Location} {content : ByteArray}
    (hr : ∀ c, d.EqOffIndexes c → c.resolve s.path = .found place (.file content))
    (hsuffix : s.path.suffix = sourceSuffix) (depth : ℕ) :
    d.WorksThrough config (Outline.source s).plan
      ((Outline.source s).statements (d.exposed config)) (visit config depth s.path) := by
  have hd := hr d (EqOffIndexes.refl d)
  have hplan : (Outline.source s).plan = [.source s] := by simp [Outline.plan, Outline.nodes]
  rw [hplan, Outline.statements_source]
  unfold visit
  refine WorksThrough.of_get fun st hst => ?_
  have hc := hr st.disk hst
  simp only [pathExists, isDirectory, isFile, hc, hsuffix, Bool.not_true, Bool.false_eq_true,
    if_false, beq_self_eq_true, Bool.and_self, if_true]
  exact worksThrough_visitSource fun c hc => (hr c hc).trans hd.symm

/-! ## Listings -/

/-- The node that a name in a directory stands for, down to a depth. -/
def nodeWithin? (d : Disk) (exclude : List String) (depth : ℕ) (s : Site) (name : String) :
    Option Outline :=
  ((d.entry? s.path s.place name).filter Entry.isEligible).map fun e =>
    if e.isDirectory then d.outlineWithin exclude depth (s.child e.name)
    else .source (s.child e.name)

/-- The children of a package are the nodes of the names that are listed and kept. -/
lemma outlineWithin_succ (exclude : List String) (depth : ℕ) (s : Site) :
    d.outlineWithin exclude (depth + 1) s = .package s
      (((d.childNames s.place).filter (! Glob.isExcluded exclude ·)).filterMap
        (d.nodeWithin? exclude depth s)) := by
  rw [outlineWithin, eligible, List.map_filterMap]
  rfl

/-- The node of a name is that of the eligible child under it. -/
lemma nodeWithin?_of_isEligible {exclude : List String} {depth : ℕ} {s : Site} {name : String}
    {e : Entry} (he : d.entry? s.path s.place name = some e) (hel : e.isEligible = true) :
    d.nodeWithin? exclude depth s name = some (if e.isDirectory then
      d.outlineWithin exclude depth (s.child name) else .source (s.child name)) := by
  rw [nodeWithin?, he, Option.filter_some, if_pos hel, Option.map_some, name_of_entry? he]

/-- A name without an eligible child has no node. -/
lemma nodeWithin?_eq_none {exclude : List String} {depth : ℕ} {s : Site} {name : String}
    (h : ∀ e, d.entry? s.path s.place name = some e → ¬ e.isEligible = true) :
    d.nodeWithin? exclude depth s name = none := by
  rw [nodeWithin?, Option.map_eq_none_iff, Option.filter_eq_none_iff]
  exact h

/-- An index has no node. -/
lemma nodeWithin?_indexName (exclude : List String) (depth : ℕ) (s : Site) :
    d.nodeWithin? exclude depth s indexName = none :=
  nodeWithin?_eq_none fun e he => by simp [Entry.isEligible, name_of_entry? he]

/-- A listing that differs in the presence and the positions of indexes has the same nodes. -/
lemma EqOffIndexes.filterMap_nodeWithin? {c : Disk} (h : d.EqOffIndexes c) (exclude : List String)
    (depth : ℕ) (s : Site) :
    ((c.childNames s.place).filter (! Glob.isExcluded exclude ·)).filterMap
        (d.nodeWithin? exclude depth s) =
      ((d.childNames s.place).filter (! Glob.isExcluded exclude ·)).filterMap
        (d.nodeWithin? exclude depth s) := by
  have hskip (names : List String) : (names.filter (! Glob.isExcluded exclude ·)).filterMap
      (d.nodeWithin? exclude depth s) =
      ((names.filter (· != indexName)).filter (! Glob.isExcluded exclude ·)).filterMap
        (d.nodeWithin? exclude depth s) := by
    induction names with
    | nil => rfl
    | cons name names ih =>
      by_cases hi : name = indexName
      · subst hi
        cases hex : Glob.isExcluded exclude indexName <;>
          simp [hex, nodeWithin?_indexName, ih]
      · cases hex : Glob.isExcluded exclude name <;>
          simp [hex, hi, ih, List.filterMap_cons]
  rw [hskip, hskip (d.childNames s.place), h.names_eq]

/-! ## Visits -/

/-- The step that a visit takes for a name in a directory works through the node that the name
stands for, if visits of the directories inside do. -/
lemma worksThrough_name {root : Location} {depth : ℕ} {s : Site} {name : String}
    (hl : d.LinksAvoidIndexes root) (hroot : root <+: s.place)
    (hr : d.resolve s.path = .found s.place .directory) (hname : IsName name)
    (hvisit : ∀ t : Site, root <+: t.place → d.resolve t.path = .found t.place .directory →
      d.WorksThrough config (d.outlineWithin config.exclude depth t).plan
        ((d.outlineWithin config.exclude depth t).statements (d.exposed config))
        (visit config depth t.path)) :
    d.WorksThrough config ((d.nodeWithin? config.exclude depth s name).toList.flatMap Outline.nodes)
      ((d.nodeWithin? config.exclude depth s name).toList.flatMap fun o =>
        if o.contributes then statementsOfChild o.moduleName (o.statements (d.exposed config))
        else [])
      (do
        match (← get).disk.entry? s.path s.place name with
        | some e =>
          if e.isEligible then statementsOfEntry config e (← visit config depth e.path)
          else return []
        | none => return []) := by
  refine WorksThrough.of_get fun st hst => ?_
  by_cases hi : name = indexName
  · -- an index is never eligible, whether it is there or not
    subst hi
    rw [nodeWithin?_indexName]
    split
    · rename_i e he
      rw [if_neg (by simp [Entry.isEligible, name_of_entry? he])]
      exact worksThrough_pure []
    · exact worksThrough_pure []
  · rw [hst.entry?_eq hl hname hi hroot hr]
    cases he : d.entry? s.path s.place name with
    | none =>
      rw [nodeWithin?_eq_none (by simp [he])]
      exact worksThrough_pure []
    | some e =>
      have hpath : e.path = (s.child name).path := path_of_entry? he
      by_cases hel : e.isEligible = true
      · rw [nodeWithin?_of_isEligible he hel]
        simp only [hel, if_true, Option.toList_some, List.flatMap_singleton]
        by_cases hd : e.isDirectory = true
        · have hnode : d.node? (s.place ++ [name]) = some .directory := node?_of_entry? he hd
          have hchild : d.resolve (s.child name).path = .found (s.child name).place .directory := by
            rw [Site.child, resolve_child hr hname (by simp [hnode]), hnode]
          rw [if_pos hd, hpath]
          refine (hvisit _ (hroot.trans (List.prefix_append _ _)) hchild).child ?_ ?_
          · rw [hpath, site_outlineWithin]
          · rw [hd, isSource_outlineWithin, Bool.not_false]
        · -- what the source leads to is no index, so that it stays the same during the run
          obtain ⟨other, content, hfile⟩ := resolve_of_entry? hr hname he (by simpa using hd)
          have hsuffix : (s.child name).path.suffix = sourceSuffix := by
            simpa [Entry.isEligible, hd, name_of_entry? he, hi, hpath] using hel
          have hsame : ∀ c, d.EqOffIndexes c →
              c.resolve (s.child name).path = .found other (.file content) := fun c hc =>
            hc.resolve_child_eq hl hname hi hroot hr hfile
          rw [if_neg hd, hpath]
          exact (worksThrough_visit_source hsame hsuffix depth).child hpath
            (by simpa [Outline.isSource] using hd)
      · rw [nodeWithin?_eq_none (by simp [he, hel])]
        simp only [hel]
        exact worksThrough_pure []

/-- A visit works through the plan of the outline of its directory. -/
theorem worksThrough_visit (config : Config) {root : Location} (hn : d.HasNames)
    (hl : d.LinksAvoidIndexes root) (depth : ℕ) {s : Site} (hroot : root <+: s.place)
    (hr : d.resolve s.path = .found s.place .directory) :
    d.WorksThrough config (d.outlineWithin config.exclude depth s).plan
      ((d.outlineWithin config.exclude depth s).statements (d.exposed config))
      (visit config depth s.path) := by
  induction depth generalizing s with
  | zero =>
    -- an outline without depth has no children, and the visit returns at once
    have hplan : (d.outlineWithin config.exclude 0 s).plan = [] := by
      rw [outlineWithin, Outline.plan, Outline.descendants_package]
      simp [Outline.contributes, Outline.nodes, Outline.descendants_package, Outline.isSource]
    rw [hplan, outlineWithin, Outline.statements_package]
    unfold visit
    refine WorksThrough.of_get fun st hst => ?_
    have hc := hst.resolve_eq (Or.inl rfl) hr
    simp only [pathExists, isDirectory, hc, Bool.not_true, Bool.false_eq_true, if_false, if_true]
    exact worksThrough_pure []
  | succ depth ih =>
    unfold visit
    refine WorksThrough.of_get fun st hst => ?_
    have hc := hst.resolve_eq (Or.inl rfl) hr
    simp only [pathExists, isDirectory, candidates, list, hc, Bool.not_true, Bool.false_eq_true,
      if_false, if_true, Run.mk_pure_ok, pure_bind]
    -- the nodes of the names listed now are those of the names listed before the run
    have hchildren := hst.filterMap_nodeWithin? config.exclude depth s
    have hnames : ∀ name ∈ (st.disk.childNames s.place).filter
        (! Glob.isExcluded config.exclude ·), IsName name := fun name hname =>
      hst.hasNames hn s.place name (mem_childNames.1 (List.mem_of_mem_filter hname))
    rw [outlineWithin_succ, ← hchildren]
    generalize (st.disk.childNames s.place).filter (! Glob.isExcluded config.exclude ·) = names
      at hnames
    have hsteps := worksThrough_mapM fun name hname =>
      worksThrough_name hl hroot hr (hnames name hname) fun t ht hrt => ih ht hrt
    generalize hcs : names.filterMap (d.nodeWithin? config.exclude depth s) = children
    have hplan : (Outline.package s children).plan =
        names.flatMap (fun name =>
          (d.nodeWithin? config.exclude depth s name).toList.flatMap Outline.nodes) ++
        ((if (Outline.package s children).contributes then [Outline.package s children] else [])
          ++ []) := by
      rw [← List.flatMap_assoc, ← List.filterMap_eq_flatMap_toList, hcs, Outline.plan,
        Outline.nodes, Outline.descendants_package]
      split <;> simp
    have hstatements : (Outline.package s children).statements (d.exposed config) =
        (names.map fun name => (d.nodeWithin? config.exclude depth s name).toList.flatMap fun o =>
          if o.contributes then statementsOfChild o.moduleName (o.statements (d.exposed config))
          else []).flatten := by
      rw [← List.flatMap_def, ← List.flatMap_assoc, ← List.filterMap_eq_flatMap_toList, hcs,
        Outline.statements_package]
    rw [hplan]
    refine hsteps.bind ?_
    rw [← hstatements]
    exact (worksThrough_finishDirectory hl hroot hr).bind (worksThrough_pure _)

end Disk

/-! ## Whole runs -/

section

variable {d c : Disk} {config : Config} {place : Location}

open Disk in
/-- The outcome of a run, in terms of the disk that it was planned for. -/
theorem generate_eq (hn : d.HasNames) (hr : d.resolve config.root = .found place .directory)
    (hl : d.LinksAvoidIndexes place) (h : d.EqOffIndexes c) :
    let o := d.outline config.exclude ⟨config.root, place⟩
    generate config c =
      ((match o.plan.findSome? (d.failure? config) with
        | some f => .error f
        | none => .ok (o.statements (d.exposed config))),
      (o.plan.takeWhile fun p => (d.failure? config p).isNone).foldl (d.settle config)
        (Progress.start c)) := by
  -- no directory lies deeper than either of the disks is deep
  have hdepth : d.outline config.exclude ⟨config.root, place⟩ =
      d.outlineWithin config.exclude (c.depth + 1) ⟨config.root, place⟩ := by
    refine outlineWithin_eq (min d.depth c.depth) (fun other hother => ?_) ?_ ?_
    · exact le_min (length_le_depth hother) (length_le_depth (h.node?_eq_directory_iff.2 hother))
    · exact (min_le_left _ _).trans (Nat.le_add_left _ _)
    · exact (min_le_right _ _).trans (Nat.le_add_left _ _)
  have hvisit := worksThrough_visit config hn hl (c.depth + 1) (s := ⟨config.root, place⟩)
    List.prefix_rfl hr (Progress.start c) h
  rw [← hdepth] at hvisit
  intro o
  rw [generate, hvisit, Run.run_bind, run_play]
  cases o.plan.findSome? (d.failure? config) <;> rfl

/-- A plan stops at the same node if the same nodes of it fail. -/
lemma plan_congr {os : List Outline} {f g : Outline → Option Failure} (h : ∀ o ∈ os, f o = g o) :
    os.findSome? f = os.findSome? g ∧
      os.takeWhile (fun o => (f o).isNone) = os.takeWhile fun o => (g o).isNone := by
  induction os with
  | nil => exact ⟨rfl, rfl⟩
  | cons o os ih =>
    obtain ⟨hfind, htake⟩ := ih fun p hp => h p (List.mem_cons_of_mem _ hp)
    rw [List.findSome?_cons, List.findSome?_cons, List.takeWhile_cons, List.takeWhile_cons,
      h o (by simp), hfind, htake]
    exact ⟨rfl, rfl⟩

/-- Some nodes with which a plan begins are settled by every run with that plan, if it fails at the
same nodes and is to return the same statements. -/
lemma exists_settled_of_same (d : Disk) (config : Config) (s : Site) :
    ∃ os outcome, os <+: (d.outline config.exclude s).plan ∧
      (∀ p ∈ os, d.failure? config p = none) ∧
      ∀ {c : Disk} {other : Config} {place : Location}, c.HasNames →
        c.resolve other.root = .found place .directory → c.LinksAvoidIndexes place →
        c.outline other.exclude ⟨other.root, place⟩ = d.outline config.exclude s →
        (∀ p ∈ (d.outline config.exclude s).plan, c.failure? other p = d.failure? config p) →
        c.aggregated other ⟨other.root, place⟩ = d.aggregated config s →
        generate other c = (outcome, os.foldl (c.settle other) (Progress.start c)) := by
  let plan := (d.outline config.exclude s).plan
  refine ⟨plan.takeWhile fun p => (d.failure? config p).isNone,
    (plan.findSome? (d.failure? config)).elim (.ok (d.aggregated config s)) .error,
    List.takeWhile_prefix _, fun p hp => by simpa using List.mem_takeWhile_imp hp, ?_⟩
  intro c other place hn hr hl houtline hfailure haggregated
  obtain ⟨hfind, htake⟩ := plan_congr hfailure
  rw [Disk.aggregated, houtline] at haggregated
  rw [generate_eq hn hr hl (Disk.EqOffIndexes.refl c), houtline, hfind, htake, haggregated]
  cases plan.findSome? (d.failure? config) <;> rfl

/-- A run that returns has settled its whole plan. -/
theorem generate_of_ok (hn : d.HasNames) (hr : d.resolve config.root = .found place .directory)
    (hl : d.LinksAvoidIndexes place) (h : d.EqOffIndexes c) {statements : List Statement}
    (hok : (generate config c).1 = .ok statements) :
    let o := d.outline config.exclude ⟨config.root, place⟩
    (∀ p ∈ o.plan, d.failure? config p = none) ∧ statements = o.statements (d.exposed config) ∧
      (generate config c).2 = o.plan.foldl (d.settle config) (Progress.start c) := by
  intro o
  rw [generate_eq hn hr hl h] at hok ⊢
  cases hf : o.plan.findSome? (d.failure? config) with
  | some f => simp [o, hf] at hok
  | none =>
    have hnone : ∀ p ∈ o.plan, d.failure? config p = none := List.findSome?_eq_none_iff.1 hf
    refine ⟨hnone, ?_, ?_⟩
    · simpa [o, hf, eq_comm] using hok
    · rw [List.takeWhile_eq_self_iff.2 fun p hp => by simp [hnone p hp]]

/-- A run returns exactly if the work on no node of its outline fails. -/
theorem generate_returns_iff (hn : d.HasNames)
    (hr : d.resolve config.root = .found place .directory) (hl : d.LinksAvoidIndexes place) :
    (∃ statements, (generate config d).1 = .ok statements) ↔
      ∀ o ∈ (d.outline config.exclude ⟨config.root, place⟩).nodes,
        d.failure? config o = none := by
  constructor
  · rintro ⟨statements, hok⟩ o ho
    obtain ⟨hnone, -, -⟩ := generate_of_ok hn hr hl (Disk.EqOffIndexes.refl d) hok
    by_cases hc : (d.outline config.exclude ⟨config.root, place⟩).contributes = true
    · exact hnone o (by rwa [Outline.plan, if_pos hc])
    · -- the root is not part of the plan, but it needs no index either
      rcases Outline.mem_nodes.1 ho with ho | rfl
      · exact hnone o (by rwa [Outline.plan, if_neg hc])
      · exact Disk.failure?_outline_eq_none_iff.2 fun hsource =>
          absurd (Disk.contributes_outline_iff.2 hsource) hc
  · intro hnone
    rw [generate_eq hn hr hl (Disk.EqOffIndexes.refl d),
      List.findSome?_eq_none_iff.2 fun o ho => hnone o (Outline.mem_nodes_of_mem_plan ho)]
    exact ⟨_, rfl⟩

/-- A run that fails does so at the first node of its plan that fails, and has settled all nodes
before that one. -/
theorem generate_of_error (hn : d.HasNames) (hr : d.resolve config.root = .found place .directory)
    (hl : d.LinksAvoidIndexes place) (h : d.EqOffIndexes c) {f : Failure}
    (herror : (generate config c).1 = .error f) :
    ∃ before p after,
      (d.outline config.exclude ⟨config.root, place⟩).plan = before ++ p :: after ∧
      (∀ b ∈ before, d.failure? config b = none) ∧ d.failure? config p = some f ∧
      (generate config c).2 = before.foldl (d.settle config) (Progress.start c) := by
  rw [generate_eq hn hr hl h] at herror ⊢
  cases hf : (d.outline config.exclude ⟨config.root, place⟩).plan.findSome?
      (d.failure? config) with
  | none => simp [hf] at herror
  | some g =>
    obtain rfl : g = f := by simpa [hf] using herror
    obtain ⟨before, p, after, hplan, hp, hbefore⟩ := List.findSome?_eq_some_iff.1 hf
    refine ⟨before, p, after, hplan, hbefore, hp, ?_⟩
    rw [hplan, List.takeWhile_append_of_pos fun b hb => by simp [hbefore b hb],
      List.takeWhile_cons_of_neg (by simp [hp]), List.append_nil]

/-- A run that starts at a directory which another one reaches settles the plan of that directory,
if nothing in it fails. -/
theorem generate_withRoot (hn : d.HasNames) (hr : d.resolve config.root = .found place .directory)
    (hl : d.LinksAvoidIndexes place) {s : Site}
    (hs : d.Reaches config.exclude ⟨config.root, place⟩ s)
    (hnone : ∀ p ∈ (d.outline config.exclude s).plan, d.failure? config p = none) :
    generate (config.withRoot s.path) d = (.ok (d.aggregated config s),
      (d.outline config.exclude s).plan.foldl (d.settle config) (Progress.start d)) := by
  obtain ⟨hroot, hrs⟩ := hs.resolve hn hr
  -- only where it starts is different about the run
  have hfailure : d.failure? (config.withRoot s.path) = d.failure? config := by
    funext p
    cases p <;> rfl
  have hsettle : d.settle (config.withRoot s.path) = d.settle config := by
    funext st p
    cases p <;> rfl
  have hrs' : d.resolve (config.withRoot s.path).root = .found s.place .directory := hrs
  have heq := generate_eq hn hrs' (hl.mono hroot) (Disk.EqOffIndexes.refl d)
  rw [hfailure, hsettle] at heq
  rw [heq]
  have hsite : d.outline (config.withRoot s.path).exclude
      ⟨(config.withRoot s.path).root, s.place⟩ = d.outline config.exclude s := rfl
  rw [hsite, List.findSome?_eq_none_iff.2 hnone,
    List.takeWhile_eq_self_iff.2 fun p hp => by simp [hnone p hp]]
  rfl

end

end PackageIndex
