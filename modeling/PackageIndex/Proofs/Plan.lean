import PackageIndex.Proofs.Outline

/-!
# Plans of runs

A visit of a directory works through the nodes of its outline, children before parents: it reads
sources, writes the indexes of packages that contribute, and passes over the other packages.
`Outline.plan` is that list.  What becomes of each node is said of the disk as it is before the run:
`failure?` is why the work on a node fails, and `settle` is how far the run is after it succeeded.

`run_play` gives the outcome of a whole plan.  The run fails at the first node that does, and has
settled the nodes before it.  What a run has settled is read off by `written_foldl_settle`,
`notices_foldl_settle` and the lemmas on `node?`: it wrote the indexes of the nodes settled, and
nothing else has changed on the disk.
-/

namespace PackageIndex

namespace Outline

/-- The path under which the index of a package is written. -/
def indexPath (o : Outline) : Path := o.site.path.child indexName

/-- Where the index of a package stands. -/
def indexPlace (o : Outline) : Location := o.site.place ++ [indexName]

/-- What a visit of a node works through, in order.  If nothing contributes, the node itself is
passed over by whoever visits it. -/
def plan (o : Outline) : List Outline := if o.contributes then o.nodes else o.descendants

end Outline

namespace Disk

variable (d : Disk) (config : Config)

/-- The names that the source at a path exposes; none if it holds no tree. -/
def exposed (p : Path) : List String :=
  match d.parse p config.version with
  | .ok tree => tree.exposedNames config.respectListing
  | .error _ => []

/-- The statements that a directory exposes. -/
def aggregated (s : Site) : List Statement :=
  (d.outline config.exclude s).statements (d.exposed config)

/-- The text of the index of a package. -/
def indexText (o : Outline) : String := Index.render (o.statements (d.exposed config)) config.sort

/-- Why the work on a node fails: a source cannot be read or parsed, or a directory stands where an
index has to be written. -/
def failure? : Outline → Option Failure
  | .source s =>
    match d.parse s.path config.version with
    | .ok _ => none
    | .error f => some f
  | .package s children =>
    let o := Outline.package s children
    if o.contributes ∧ d.node? o.indexPlace = some .directory then
      some (.notWritten o.indexPath .isDirectory)
    else none

/-- What is told of the work on a node. -/
def notice : Outline → Notice
  | .source s => .parsed s.path (d.exposed config s.path).length
  | .package s children =>
    let o := Outline.package s children
    if o.contributes then .wrote o.indexPath else .skippedEmpty s.path

/-- How far a run is when the work on a node has succeeded. -/
def settle (st : Progress) (o : Outline) : Progress where
  disk := if o.isIndexed then st.disk.putIndex o.indexPlace (d.indexText config o) else st.disk
  written := if o.isIndexed then st.written ++ [o.indexPath] else st.written
  notices := if config.verbose then st.notices ++ [d.notice config o] else st.notices

/-- The work on a node. -/
def perform (o : Outline) : Run Unit := ExceptT.mk fun st =>
  match d.failure? config o with
  | some f => (.error f, st)
  | none => (.ok (), d.settle config st o)

/-- The work on some nodes, one after another. -/
def play (os : List Outline) : Run Unit := os.forM (d.perform config)

end Disk

/-! ## Nodes of plans -/

/-- Children have the same path only if they have the same name below the same path. -/
lemma Path.child_inj {p q : Path} {name other : String} :
    p.child name = q.child other ↔ p = q ∧ name = other := by
  obtain ⟨anchor, parts⟩ := p
  obtain ⟨anchor', parts'⟩ := q
  simp only [child, mk.injEq]
  constructor
  · rintro ⟨rfl, h⟩
    obtain ⟨rfl, hname⟩ := List.append_inj' h rfl
    exact ⟨⟨rfl, rfl⟩, by simpa using hname⟩
  · rintro ⟨⟨rfl, rfl⟩, rfl⟩
    exact ⟨rfl, rfl⟩

/-- Paths are the same if their children of some name are. -/
lemma Path.child_left_inj {p q : Path} {name : String} : p.child name = q.child name ↔ p = q := by
  simp [child_inj]

namespace Outline

/-- A plan consists of nodes of its outline. -/
lemma mem_nodes_of_mem_plan {o p : Outline} (hp : p ∈ o.plan) : p ∈ o.nodes := by
  unfold plan at hp
  split_ifs at hp
  · exact hp
  · exact mem_nodes.2 (Or.inl hp)

/-- A plan lacks no node that has an index. -/
lemma filter_isIndexed_plan (o : Outline) : o.plan.filter isIndexed = o.nodes.filter isIndexed := by
  unfold plan
  split_ifs with h
  · rfl
  · simp [nodes, isIndexed, h]

/-- A plan is made from the bottom up. -/
lemma Placed.bottomUp_plan {o : Outline} (ho : o.Placed) : BottomUp o.plan := by
  refine ho.bottomUp_nodes.sublist ?_
  unfold plan
  split_ifs
  · exact List.Sublist.refl _
  · exact List.sublist_append_left _ _

/-- What lies below a node that contributes to an outline is part of its plan. -/
lemma mem_plan_of_mem_nodes {o b p : Outline} (hb : b ∈ o.nodes)
    (hcontributes : b.contributes = true) (hp : p ∈ b.nodes) : p ∈ o.plan := by
  rw [plan, if_pos (contributes_of_mem_nodes hb hcontributes)]
  exact mem_nodes_trans hb hp

/-- No index of an outline is listed twice. -/
lemma Placed.nodup_indexPath {o : Outline} (ho : o.Placed) :
    ((o.nodes.filter isIndexed).map indexPath).Nodup := by
  have hne : o.nodes.Pairwise fun a b => a.indexPath ≠ b.indexPath := by
    refine List.Pairwise.imp_of_mem (fun {a b} ha hb hab h => hab ?_) ho.bottomUp_nodes
    rw [ho.site_eq_of_path_eq ha hb (Path.child_left_inj.1 h)]
  exact List.pairwise_map.2 (hne.filter _)

end Outline

namespace Disk

/-- The index of a directory is written to its child of that name. -/
lemma indexPath_outline (d : Disk) (exclude : List String) (s : Site) :
    (d.outline exclude s).indexPath = s.path.child indexName := by
  rw [Outline.indexPath, site_outline]

/-- The index of a directory belongs into its place. -/
lemma indexPlace_outline (d : Disk) (exclude : List String) (s : Site) :
    (d.outline exclude s).indexPlace = s.place ++ [indexName] := by
  rw [Outline.indexPlace, site_outline]

/-- A directory gets an index exactly if a source lies below it. -/
lemma isIndexed_outline_iff {d : Disk} {exclude : List String} {s : Site} :
    (d.outline exclude s).isIndexed = true ↔ d.HasSource exclude s := by
  rw [Outline.isIndexed, isSource_outline, Bool.not_false, Bool.true_and, contributes_outline_iff]

/-- The work on a source succeeds exactly if the source holds a tree. -/
lemma failure?_source_eq_none_iff {d : Disk} {config : Config} {s : Site} :
    d.failure? config (.source s) = none ↔ ∃ tree, d.parse s.path config.version = .ok tree := by
  simp only [failure?]
  cases d.parse s.path config.version <;> simp

/-- The work on a directory succeeds unless an index has to be written where a directory stands. -/
lemma failure?_outline_eq_none_iff {d : Disk} {config : Config} {s : Site} :
    d.failure? config (d.outline config.exclude s) = none ↔
      (d.HasSource config.exclude s → d.node? (s.place ++ [indexName]) ≠ some .directory) := by
  rw [← contributes_outline_iff, ← indexPlace_outline d config.exclude s]
  rw [outline_eq]
  simp [failure?]

end Disk

/-! ## Results of steps -/

namespace Run

variable {α β : Type}

/-- Steps in a row: the second goes on from where the first ends, unless the first fails. -/
lemma run_bind (step : Run α) (next : α → Run β) (st : Progress) :
    (step >>= next).run st = match step.run st with
      | (.ok a, t) => (next a).run t
      | (.error f, t) => (.error f, t) := by
  rw [ExceptT.run_bind]
  simp only [bind, StateT.bind]
  rcases step.run st with ⟨_ | _, _⟩ <;> rfl

/-- A step that only returns leaves a run where it is. -/
lemma run_pure (a : α) (st : Progress) : (pure a : Run α).run st = (.ok a, st) := rfl

/-- How far a run is can be read and stays so. -/
lemma run_get (st : Progress) : (get : Run Progress).run st = (.ok st, st) := rfl

/-- A run is moved on by a change. -/
lemma run_modify (change : Progress → Progress) (st : Progress) :
    (modify change : Run PUnit).run st = (.ok ⟨⟩, change st) := rfl

/-- A result that was computed already leaves a run where it is. -/
lemma run_mk_pure (result : Except Failure α) (st : Progress) :
    (ExceptT.mk (pure result) : Run α).run st = (result, st) := rfl

/-- A result that was computed without a failure is returned. -/
lemma mk_pure_ok (a : α) : (ExceptT.mk (pure (.ok a)) : Run α) = pure a := rfl

/-- What is told is added to the notices, if every step is told. -/
lemma run_tell (config : Config) (notice : Notice) (st : Progress) :
    (tell config notice).run st = (.ok (), { st with
      notices := if config.verbose then st.notices ++ [notice] else st.notices }) := by
  unfold tell
  cases config.verbose <;> rfl

end Run

namespace Disk

variable {d : Disk} {config : Config}

/-! ## Outcomes of plans -/

/-- The work on a node fails and changes nothing, or it settles the node. -/
lemma run_perform (o : Outline) (st : Progress) : (d.perform config o).run st =
    match d.failure? config o with
    | some f => (.error f, st)
    | none => (.ok (), d.settle config st o) := rfl

/-- A plan without nodes does nothing. -/
@[simp] lemma play_nil : d.play config [] = pure () := rfl

/-- A plan begins with the work on its first node. -/
lemma play_cons (o : Outline) (os : List Outline) :
    d.play config (o :: os) = (do d.perform config o; d.play config os) := rfl

/-- A plan may be done in two parts. -/
lemma play_append (os ps : List Outline) :
    d.play config (os ++ ps) = (do d.play config os; d.play config ps) := by
  simp [play, List.forM_append]

/-- The outcome of a plan: the first failure in it ends the run, which has settled all nodes before
that one. -/
theorem run_play (os : List Outline) (st : Progress) : (d.play config os).run st =
    ((match os.findSome? (d.failure? config) with
      | some f => .error f
      | none => .ok ()),
      (os.takeWhile fun o => (d.failure? config o).isNone).foldl (d.settle config) st) := by
  induction os generalizing st with
  | nil => rfl
  | cons o os ih =>
    rw [play_cons, Run.run_bind, run_perform]
    cases hf : d.failure? config o with
    | some f => simp [hf]
    | none => simp [hf, ih]

/-- An index that can be written takes the place of a regular file or of nothing, unless there is a
pipe. -/
lemma holdsOnlyFile_indexPlace {root : Location} {o : Outline} (hl : d.LinksAvoidIndexes root)
    (hroot : root <+: o.site.place) (hi : o.isIndexed = true) (hf : d.failure? config o = none)
    (hp : d.node? o.indexPlace ≠ some .pipe) : d.HoldsOnlyFile o.indexPlace := by
  intro node hnode
  cases node with
  | file content => exact ⟨content, rfl⟩
  | directory =>
    cases o with
    | source s => simp at hi
    | package s children =>
      rw [Outline.isIndexed_package] at hi
      simp [failure?, hi, hnode] at hf
  | link target => exact absurd rfl (hl.name_ne _ _ target hroot hnode)
  | pipe => exact absurd hnode hp

/-! ## What a run has settled -/

/-- What was written is the index of every settled node that has one, in order. -/
lemma written_foldl_settle (os : List Outline) (st : Progress) :
    (os.foldl (d.settle config) st).written =
      st.written ++ (os.filter Outline.isIndexed).map Outline.indexPath := by
  induction os generalizing st with
  | nil => simp
  | cons o os ih =>
    rw [List.foldl_cons, ih]
    by_cases ho : o.isIndexed <;> simp [settle, ho]

/-- What was told is the notice of every settled node, in order, if every step is told. -/
lemma notices_foldl_settle (os : List Outline) (st : Progress) :
    (os.foldl (d.settle config) st).notices =
      st.notices ++ if config.verbose then os.map (d.notice config) else [] := by
  induction os generalizing st with
  | nil => simp
  | cons o os ih =>
    rw [List.foldl_cons, ih]
    by_cases hv : config.verbose <;> simp [settle, hv]

/-- A node with an index is settled by putting the index on the disk. -/
lemma disk_settle_of_isIndexed {o : Outline} (ho : o.isIndexed = true) (st : Progress) :
    (d.settle config st o).disk = st.disk.putIndex o.indexPlace (d.indexText config o) :=
  if_pos ho

/-- A node without an index leaves the disk as it is. -/
lemma disk_settle_of_not_isIndexed {o : Outline} (ho : ¬ o.isIndexed = true) (st : Progress) :
    (d.settle config st o).disk = st.disk :=
  if_neg ho

/-- Settling a node changes nothing but indexes. -/
lemma EqOffIndexes.settle {st : Progress} (h : d.EqOffIndexes st.disk) (o : Outline) :
    d.EqOffIndexes (d.settle config st o).disk := by
  by_cases ho : o.isIndexed = true
  · rw [disk_settle_of_isIndexed ho]
    exact h.trans (of_putIndex _ (by simp [Outline.indexPlace]))
  · rwa [disk_settle_of_not_isIndexed ho]

/-- Settling some nodes changes nothing but indexes. -/
lemma EqOffIndexes.foldl_settle {st : Progress} (h : d.EqOffIndexes st.disk) (os : List Outline) :
    d.EqOffIndexes (os.foldl (d.settle config) st).disk := by
  induction os generalizing st with
  | nil => exact h
  | cons o os ih => exact ih (h.settle o)

/-- A place stays as it is unless it is where the index of a node settled stands. -/
lemma node?_foldl_settle {place : Location} {os : List Outline} {st : Progress}
    (h : ¬ st.disk.HoldsOnlyFile place ∨ ∀ o ∈ os, o.isIndexed = true → o.indexPlace ≠ place) :
    (os.foldl (d.settle config) st).disk.node? place = st.disk.node? place := by
  induction os generalizing st with
  | nil => rfl
  | cons o os ih =>
    have hstep : (d.settle config st o).disk.node? place = st.disk.node? place := by
      by_cases ho : o.isIndexed = true
      · rw [disk_settle_of_isIndexed ho]
        by_cases hfile : st.disk.HoldsOnlyFile o.indexPlace
        · rw [putIndex_of_holdsOnlyFile hfile, node?_set _ (by simp [Outline.indexPlace]), if_neg]
          rintro rfl
          exact h.elim (· hfile) fun hne => hne o (by simp) ho rfl
        · rw [putIndex_of_not_holdsOnlyFile hfile]
      · rw [disk_settle_of_not_isIndexed ho]
    rw [List.foldl_cons, ih, hstep]
    exact h.imp (mt (holdsOnlyFile_congr hstep).1) fun hne p hp =>
      hne p (List.mem_cons_of_mem _ hp)

/-- The index of a node settled holds the text of the node, since no later node has the same
place. -/
lemma node?_foldl_settle_of_mem {os : List Outline} {st : Progress} {o : Outline}
    (hos : Outline.BottomUp os) (ho : o ∈ os) (hi : o.isIndexed = true)
    (hfile : st.disk.HoldsOnlyFile o.indexPlace) :
    (os.foldl (d.settle config) st).disk.node? o.indexPlace =
      some (.file (d.indexText config o).toUTF8) := by
  obtain ⟨before, after, rfl⟩ := List.append_of_mem ho
  obtain ⟨-, hafter, -⟩ := List.pairwise_append.1 hos
  have hne {p : Outline} (hp : o.site.place ≠ p.site.place) : p.indexPlace ≠ o.indexPlace := by
    simpa [Outline.indexPlace] using hp.symm
  have hbefore : (before.foldl (d.settle config) st).disk.node? o.indexPlace =
      st.disk.node? o.indexPlace := by
    refine node?_foldl_settle (Or.inr fun p hp _ => hne fun heq => ?_)
    exact hos.not_inside hp List.mem_cons_self (by rw [heq])
  rw [List.foldl_append, List.foldl_cons, node?_foldl_settle]
  · have hfile' := (holdsOnlyFile_congr hbefore).2 hfile
    rw [disk_settle_of_isIndexed hi, putIndex_of_holdsOnlyFile hfile',
      node?_set _ (by simp [Outline.indexPlace]), if_pos rfl]
  · refine Or.inr fun p hp _ => hne fun heq => ?_
    exact (List.pairwise_cons.1 hafter).1 p hp (by rw [heq])

/-- To settle nodes once more changes nothing. -/
theorem node?_foldl_settle_again {os : List Outline} {st st' : Progress}
    (hos : Outline.BottomUp os)
    (hst : st'.disk = (os.foldl (d.settle config) st).disk) (place : Location) :
    (os.foldl (d.settle config) st').disk.node? place = st'.disk.node? place := by
  by_cases hplace : ∃ o ∈ os, o.isIndexed = true ∧ o.indexPlace = place
  · obtain ⟨o, ho, hi, rfl⟩ := hplace
    by_cases hfile : st.disk.HoldsOnlyFile o.indexPlace
    · have hfirst : st'.disk.node? o.indexPlace =
          some (.file (d.indexText config o).toUTF8) := by
        rw [hst, node?_foldl_settle_of_mem hos ho hi hfile]
      have hfile' : st'.disk.HoldsOnlyFile o.indexPlace := by simp [HoldsOnlyFile, hfirst]
      rw [node?_foldl_settle_of_mem hos ho hi hfile', hfirst]
    · have hfirst : st'.disk.node? o.indexPlace = st.disk.node? o.indexPlace := by
        rw [hst, node?_foldl_settle (Or.inl hfile)]
      exact node?_foldl_settle (Or.inl (mt (holdsOnlyFile_congr hfirst).1 hfile))
  · exact node?_foldl_settle (Or.inr fun o ho hi heq => hplace ⟨o, ho, hi, heq⟩)

end Disk

end PackageIndex
