import PackageIndex.Proofs.Confinement

/-!
# Traces of visits

Links may lead to indexes that a run has just written, so that an outline does not tell what a run
visits.  A `Trace` does: it is the tree of everything that was visited, with what came of each
visit.  The relation `Visits` says which traces there are, without any bound on the depth.  It says
what the visit of a site comes to on a disk and which disk is left behind, and it goes through the
names in a directory one after another, each on the disk that the one before has left behind.

A visit changes nothing but regular files (`Visits.eqOffFiles`), so that a scan and the visit that
follows it agree on what is a directory (`Visits.isPackage_eq`).  `exists_visits` shows that every
visit comes to an end, since no directory lies deeper than the disk before the run.
`Visits.run_visit` shows that the program does what the relation says: its outcome, the indexes that
it writes and the notices that it gives can be read off the trace.
-/

namespace PackageIndex

/-- What came of a visit: the tree of everything that was visited on the way. -/
inductive Trace where
  /-- What is no directory gave no names, for some reason. -/
  | refused (site : Site) (failure : Failure)
  /-- A source was parsed and exposes some names. -/
  | source (site : Site) (names : List String)
  /-- A directory was listed, some of its children were visited, in this order, and the visit of the
  directory came to an end. -/
  | package (site : Site) (children : List Trace) (outcome : Except Failure (List Statement))

namespace Trace

/-- Induction on traces: a property of all children is a property of the package. -/
@[elab_as_elim, induction_eliminator]
theorem induction {motive : Trace → Prop} (refused : ∀ s f, motive (.refused s f))
    (source : ∀ s names, motive (.source s names))
    (package : ∀ s children outcome, (∀ c ∈ children, motive c) →
      motive (.package s children outcome)) : ∀ t, motive t
  | .refused s f => refused s f
  | .source s names => source s names
  | .package s children outcome =>
    package s children outcome fun c _ => induction refused source package c

/-- What was visited. -/
def site : Trace → Site
  | .refused s _ | .source s _ | .package s _ _ => s

/-- How the visit ended. -/
def outcome : Trace → Except Failure (List Statement)
  | .refused _ f => .error f
  | .source _ names => .ok (names.map .module)
  | .package _ _ outcome => outcome

/-- A directory was visited. -/
def isPackage : Trace → Bool
  | .package _ _ _ => true
  | .refused _ _ | .source _ _ => false

/-- A directory was visited, and it exposes nothing. -/
def isEmpty : Trace → Bool
  | .package _ _ (.ok []) => true
  | _ => false

/-- The name under which what was visited is imported. -/
def moduleName (t : Trace) : String := if t.isPackage then t.site.path.name else t.site.path.stem

/-- What a visited child adds to the statements of its directory. -/
def addition (t : Trace) : Except Failure (List Statement) :=
  t.outcome.map fun statements =>
    if t.isEmpty then [] else statementsOfChild t.moduleName statements

/-- What the visited children of a directory add up to; the first failure among them counts. -/
def gathered (children : List Trace) : Except Failure (List Statement) :=
  (children.mapM addition).map List.flatten

mutual

/-- What was visited below a node, children before parents. -/
def descendants : Trace → List Trace
  | .refused _ _ | .source _ _ => []
  | .package _ children _ => nodesOfAll children

/-- Some nodes, each behind all that was visited below it. -/
def nodesOfAll : List Trace → List Trace
  | [] => []
  | t :: ts => t.descendants ++ t :: nodesOfAll ts

end

/-- What was visited, in the order in which the visits ended. -/
def nodes (t : Trace) : List Trace := t.descendants ++ [t]

/-- The index that the visit of a directory has written itself. -/
def index? : Trace → Option Path
  | .package s _ (.ok (_ :: _)) => some (s.path.child indexName)
  | _ => none

/-- What is told of a visit when it has ended.  Of one that fails nothing is told. -/
def notice? : Trace → Option Notice
  | .source s names => some (.parsed s.path names.length)
  | .package s _ (.ok []) => some (.skippedEmpty s.path)
  | .package s _ (.ok (_ :: _)) => some (.wrote (s.path.child indexName))
  | .refused _ _ | .package _ _ (.error _) => none

/-- The indexes that a visit has written. -/
def written (t : Trace) : List Path := t.nodes.filterMap index?

/-- What is told of a child and of everything below it. -/
def report (t : Trace) : List Notice := t.nodes.filterMap notice?

/-- What a visit tells itself.  That a directory is empty is told by whoever visits its parent. -/
def told (t : Trace) : List Notice :=
  (if t.isEmpty then t.descendants else t.nodes).filterMap notice?

/-- Nothing was visited below what was refused. -/
@[simp] lemma descendants_refused (s : Site) (f : Failure) : (refused s f).descendants = [] := by
  rw [descendants]

/-- Nothing was visited below a source. -/
@[simp] lemma descendants_source (s : Site) (names : List String) :
    (source s names).descendants = [] := by
  rw [descendants]

/-- Below a directory its children were visited and all that lies below them. -/
lemma descendants_package (s : Site) (children : List Trace)
    (outcome : Except Failure (List Statement)) :
    (package s children outcome).descendants = children.flatMap nodes := by
  rw [descendants]
  induction children with
  | nil => rfl
  | cons t ts ih =>
    rw [nodesOfAll, ih, List.flatMap_cons, nodes, List.append_assoc, List.singleton_append]

/-- A node is one of its nodes, beside all that was visited below it. -/
lemma mem_nodes {t u : Trace} : u ∈ t.nodes ↔ u ∈ t.descendants ∨ u = t := by
  simp [nodes]

/-- A directory writes its index behind those of its children. -/
lemma written_package (s : Site) (children : List Trace)
    (outcome : Except Failure (List Statement)) :
    (package s children outcome).written =
      children.flatMap written ++ (package s children outcome).index?.toList := by
  rw [written, nodes, descendants_package, List.filterMap_append, List.filterMap_flatMap]
  rfl

/-- A directory that is not empty tells of itself behind its children. -/
lemma told_package (s : Site) (children : List Trace)
    (outcome : Except Failure (List Statement)) :
    (package s children outcome).told = children.flatMap report ++
      if (package s children outcome).isEmpty then []
      else (package s children outcome).notice?.toList := by
  rw [told]
  split_ifs
  · rw [descendants_package, List.filterMap_flatMap, List.append_nil]
    rfl
  · rw [nodes, descendants_package, List.filterMap_append, List.filterMap_flatMap]
    rfl

/-- What is told of a child is what its visit tells, and that it is empty if it is. -/
lemma report_eq (t : Trace) :
    t.report = t.told ++ if t.isEmpty then [.skippedEmpty t.site.path] else [] := by
  rw [report, told, nodes, List.filterMap_append]
  split_ifs with h
  · cases t with
    | refused s f => simp [isEmpty] at h
    | source s names => simp [isEmpty] at h
    | package s children outcome =>
      rcases outcome with f | _ | ⟨x, xs⟩
      · simp [isEmpty] at h
      · rfl
      · simp [isEmpty] at h
  · simp

end Trace

namespace Disk

/-- What comes of the visit of what is no directory. -/
def leaf (d : Disk) (config : Config) (s : Site) : Trace :=
  if ! d.pathExists s.path then .refused s (.missing s.path)
  else if d.isFile s.path && s.path.suffix == sourceSuffix then
    match d.parse s.path config.version with
    | .ok tree => .source s (tree.exposedNames config.respectListing)
    | .error f => .refused s f
  else .refused s (.unsupported s.path)

/-- How the visit of a directory ends when its children add up to some statements, or one of them
has failed: if there is anything to write, the index is written. -/
def close (d : Disk) (config : Config) (s : Site) :
    Except Failure (List Statement) → Except Failure (List Statement) × Disk
  | .error f => (.error f, d)
  | .ok statements =>
    if statements.isEmpty then (.ok [], d)
    else match d.writeIndex (s.path.child indexName) statements config.sort with
      | .ok disk => (.ok statements, disk)
      | .error f => (.error f, d)

end Disk

mutual

/-- The visit of a site, on a disk, comes to a trace and leaves another disk behind. -/
inductive Visits (config : Config) : Disk → Site → Trace → Disk → Prop
  | leaf {d : Disk} {s : Site} (noDirectory : d.isDirectory s.path = false) :
    Visits config d s (d.leaf config s) d
  | package {d c e : Disk} {s : Site} {children : List Trace}
    {outcome : Except Failure (List Statement)}
    (directory : d.resolve s.path = .found s.place .directory)
    (each : VisitsEach config d s
      ((d.childNames s.place).filter (! Glob.isExcluded config.exclude ·)) children c)
    (close : c.close config s (Trace.gathered children) = (outcome, e)) :
    Visits config d s (.package s children outcome) e

/-- The visits of some names in a directory, one after another, as long as none fails. -/
inductive VisitsEach (config : Config) : Disk → Site → List String → List Trace → Disk → Prop
  | nil {d : Disk} {s : Site} : VisitsEach config d s [] [] d
  | skip {d c : Disk} {s : Site} {name : String} {names : List String} {children : List Trace}
    (unusable : ∀ e, d.entry? s.path s.place name = some e → e.isEligible = false)
    (rest : VisitsEach config d s names children c) :
    VisitsEach config d s (name :: names) children c
  | visit {d b c : Disk} {s : Site} {name : String} {names : List String} {e : Entry} {t : Trace}
    {children : List Trace} {statements : List Statement}
    (entry : d.entry? s.path s.place name = some e) (eligible : e.isEligible = true)
    (visits : Visits config d (s.child name) t b) (outcome : t.outcome = .ok statements)
    (rest : VisitsEach config b s names children c) :
    VisitsEach config d s (name :: names) (t :: children) c
  | stop {d c : Disk} {s : Site} {name : String} {names : List String} {e : Entry} {t : Trace}
    {f : Failure}
    (entry : d.entry? s.path s.place name = some e) (eligible : e.isEligible = true)
    (visits : Visits config d (s.child name) t c) (outcome : t.outcome = .error f) :
    VisitsEach config d s (name :: names) [t] c

end

variable {config : Config} {d c b : Disk} {s : Site} {t : Trace}

/-! ## Visits and disks -/

namespace Disk

/-- Writing an index changes nothing but regular files, wherever its path leads. -/
lemma EqOffFiles.of_writeIndex {p : Path} {statements : List Statement} {sort : Bool}
    (h : d.writeIndex p statements sort = .ok c) : d.EqOffFiles c := by
  rcases eq_or_exists_of_write_ok (write_of_writeIndex h) with ⟨rfl, -⟩ | ⟨place, -, -, hfile, rfl⟩
  · exact .refl c
  · exact .of_set _ hfile

/-- The end of the visit of a directory changes nothing but regular files. -/
lemma EqOffFiles.of_close {gathered outcome : Except Failure (List Statement)}
    (h : d.close config s gathered = (outcome, c)) : d.EqOffFiles c := by
  unfold close at h
  split at h
  · obtain ⟨-, rfl⟩ := Prod.mk.inj h
    exact .refl d
  · split_ifs at h
    · obtain ⟨-, rfl⟩ := Prod.mk.inj h
      exact .refl d
    · split at h
      · rename_i hw
        obtain ⟨-, rfl⟩ := Prod.mk.inj h
        exact .of_writeIndex hw
      · obtain ⟨-, rfl⟩ := Prod.mk.inj h
        exact .refl d

/-- The visit of what is no directory is refused or parses a source. -/
lemma leaf_cases (d : Disk) (config : Config) (s : Site) :
    (∃ f, d.leaf config s = .refused s f) ∨ ∃ names, d.leaf config s = .source s names := by
  unfold leaf
  split_ifs
  · exact Or.inl ⟨_, rfl⟩
  · split
    · exact Or.inr ⟨_, rfl⟩
    · exact Or.inl ⟨_, rfl⟩
  · exact Or.inl ⟨_, rfl⟩

/-- The visit of what is no directory begins and ends at its site. -/
@[simp] lemma site_leaf (d : Disk) (config : Config) (s : Site) : (d.leaf config s).site = s := by
  rcases d.leaf_cases config s with ⟨f, h⟩ | ⟨names, h⟩
  · rw [h]; rfl
  · rw [h]; rfl

/-- What is no directory is visited as none. -/
@[simp] lemma isPackage_leaf (d : Disk) (config : Config) (s : Site) :
    (d.leaf config s).isPackage = false := by
  rcases d.leaf_cases config s with ⟨f, h⟩ | ⟨names, h⟩
  · rw [h]; rfl
  · rw [h]; rfl

/-- Nothing is visited below what is no directory. -/
@[simp] lemma nodes_leaf (d : Disk) (config : Config) (s : Site) :
    (d.leaf config s).nodes = [d.leaf config s] := by
  rcases d.leaf_cases config s with ⟨f, h⟩ | ⟨names, h⟩
  · rw [h, Trace.nodes, Trace.descendants_refused, List.nil_append]
  · rw [h, Trace.nodes, Trace.descendants_source, List.nil_append]

/-- No index is written for what is no directory. -/
@[simp] lemma written_leaf (d : Disk) (config : Config) (s : Site) :
    (d.leaf config s).written = [] := by
  rw [Trace.written, nodes_leaf]
  rcases d.leaf_cases config s with ⟨f, h⟩ | ⟨names, h⟩
  · rw [h]; rfl
  · rw [h]; rfl

end Disk

namespace Visits

/-- A visit changes nothing but regular files. -/
lemma eqOffFiles (h : Visits config d s t c) : d.EqOffFiles c := by
  induction h using @Visits.rec config _ (fun d _ _ _ c _ => d.EqOffFiles c) with
  | leaf => exact .refl _
  | package _ _ hclose ih => exact ih.trans (.of_close hclose)
  | nil => exact .refl _
  | skip _ _ ih => exact ih
  | visit _ _ _ _ _ ih ih' => exact ih.trans ih'
  | stop _ _ _ _ ih => exact ih

/-- The trace of a visit begins at what is visited. -/
lemma site_eq (h : Visits config d s t c) : t.site = s := by
  cases h with
  | leaf => exact Disk.site_leaf d config s
  | package => rfl

/-- A directory that was visited is where its site says. -/
lemma resolve_of_isPackage (h : Visits config d s t c) (hp : t.isPackage = true) :
    d.resolve s.path = .found s.place .directory := by
  cases h with
  | leaf => simp at hp
  | package directory => exact directory

/-- Anything else that was visited is no directory. -/
lemma isDirectory_of_not_isPackage (h : Visits config d s t c) (hp : t.isPackage = false) :
    d.isDirectory s.path = false := by
  cases h with
  | leaf noDirectory => exact noDirectory
  | package => simp [Trace.isPackage] at hp

/-- Whatever a visit came to on the way was visited, on a disk that differs in regular files. -/
lemma exists_of_mem_nodes (h : Visits config d s t c) {u : Trace} (hu : u ∈ t.nodes) :
    ∃ e b, d.EqOffFiles e ∧ Visits config e u.site u b := by
  induction h using @Visits.rec config _ (fun d _ _ children _ _ =>
    ∀ t ∈ children, u ∈ t.nodes → ∃ e b, d.EqOffFiles e ∧ Visits config e u.site u b) with
  | @leaf d s hleaf =>
    obtain rfl : u = d.leaf config s := by simpa using hu
    exact ⟨d, d, .refl d, by simpa using Visits.leaf hleaf⟩
  | @package d c e s children outcome hdir heach hclose ih =>
    rcases Trace.mem_nodes.1 hu with hu | rfl
    · rw [Trace.descendants_package, List.mem_flatMap] at hu
      obtain ⟨t, ht, hu⟩ := hu
      exact ih t ht hu
    · exact ⟨d, e, .refl d, .package hdir heach hclose⟩
  | nil t ht => simp at ht
  | skip _ _ ih t ht hu => exact ih t ht hu
  | visit _ _ hvisits _ _ ih ih' t ht hu =>
    rcases List.mem_cons.1 ht with rfl | ht
    · exact ih hu
    · obtain ⟨e, b, heq, hv⟩ := ih' t ht hu
      exact ⟨e, b, hvisits.eqOffFiles.trans heq, hv⟩
  | stop _ _ _ _ ih t ht hu =>
    obtain rfl := List.mem_singleton.1 ht
    exact ih hu

end Visits

/-! ## Children -/

/-- A child lies one step deeper than its directory. -/
@[simp] lemma Site.length_place_child (s : Site) (name : String) :
    (s.child name).place.length = s.place.length + 1 := by
  simp [child]

namespace Disk

/-- Directories on a disk that differs in regular files stand on the disk itself. -/
lemma EqOffFiles.holdsDirectory (h : d.EqOffFiles c) {p : Path} {place : Location}
    (hr : c.resolve p = .found place .directory) : d.HoldsDirectory place :=
  fun front hfront => h.symm.node?_eq_of_not_file (holdsDirectory_of_resolve hr front hfront)
    (by simp)

/-- A directory that a path leads to lies no deeper than the disk is, also after a change of regular
files. -/
lemma EqOffFiles.length_le_depth (h : d.EqOffFiles c) {p : Path} {place : Location}
    (hr : c.resolve p = .found place .directory) : place.length ≤ d.depth :=
  Disk.length_le_depth (h.holdsDirectory hr).node?_eq

/-- What a run visits in a directory leads where a scan has said: to a directory in its place, or
to a regular file. -/
lemma resolve_of_isEligible {name : String} {e : Entry} (hn : d.HasNames) (heq : d.EqOffFiles c)
    (hr : c.resolve s.path = .found s.place .directory)
    (he : c.entry? s.path s.place name = some e) (hel : e.isEligible = true) :
    if e.isDirectory then c.resolve (s.child name).path = .found (s.child name).place .directory
    else ∃ place content, c.resolve (s.child name).path = .found place (.file content) := by
  split_ifs with hd
  · have hnode : c.node? (s.place ++ [name]) = some .directory := node?_of_entry? he hd
    have hname : IsName name := by
      refine hn s.place name ?_
      rw [heq.symm.node?_eq_of_not_file hnode (by simp)]
      simp
    rw [Site.child, resolve_child hr hname (by simp [hnode]), hnode]
  · have hfile : e.isDirectory = false := by simpa using hd
    have hname : IsName name := name_of_entry? he ▸ isName_of_isEligible hel hfile
    exact resolve_of_entry? hr hname he hfile

end Disk

/-- What is visited in a directory is visited as what a scan has reported it to be. -/
lemma Visits.isPackage_eq {name : String} {e : Entry} (h : Visits config c (s.child name) t b)
    (hn : d.HasNames) (heq : d.EqOffFiles c) (hr : c.resolve s.path = .found s.place .directory)
    (he : c.entry? s.path s.place name = some e) (hel : e.isEligible = true) :
    t.isPackage = e.isDirectory := by
  have hchild := Disk.resolve_of_isEligible hn heq hr he hel
  cases hp : t.isPackage with
  | true =>
    have hdir := h.resolve_of_isPackage hp
    by_contra hd
    rw [if_neg (by simpa using Ne.symm hd)] at hchild
    obtain ⟨place, content, hfile⟩ := hchild
    simp [hfile] at hdir
  | false =>
    have hleaf := h.isDirectory_of_not_isPackage hp
    by_contra hd
    rw [if_pos (by simpa using Ne.symm hd)] at hchild
    simp [Disk.isDirectory, hchild] at hleaf

/-! ## Runs -/

/-- How far a run is when a disk is left behind, some indexes have been written, and some notices
were to be given on the way. -/
def Progress.advance (st : Progress) (config : Config) (disk : Disk) (written : List Path)
    (told : List Notice) : Progress where
  disk := disk
  written := st.written ++ written
  notices := if config.verbose then st.notices ++ told else st.notices

namespace Progress

/-- A run that has done nothing is where it was. -/
lemma advance_nil (st : Progress) (config : Config) : st.advance config st.disk [] [] = st := by
  simp [advance]

/-- A run may be moved on in two steps. -/
lemma advance_advance (st : Progress) (config : Config) (disk disk' : Disk)
    (written written' : List Path) (told told' : List Notice) :
    (st.advance config disk written told).advance config disk' written' told' =
      st.advance config disk' (written ++ written') (told ++ told') := by
  cases h : config.verbose <;> simp [advance, h]

end Progress

/-- What a visit of a directory does for each name that is listed there. -/
def visitChild (config : Config) (depth : ℕ) (s : Site) (name : String) :
    Run (List Statement) := do
  match (← get).disk.entry? s.path s.place name with
  | some e =>
    if e.isEligible then statementsOfEntry config e (← visit config depth e.path)
    else return []
  | none => return []

namespace Run

/-- Telling the user moves a run on by a notice. -/
lemma run_tell_eq (notice : Notice) (st : Progress) :
    (tell config notice).run st = (.ok (), st.advance config st.disk [] [notice]) := by
  rw [run_tell]
  simp [Progress.advance]

/-- The visit of a source tells the number of its names, or fails and leaves the run where it is. -/
lemma run_visitSource (p : Path) (st : Progress) : (visitSource config p).run st =
    match st.disk.parse p config.version with
    | .ok tree =>
      let names := tree.exposedNames config.respectListing
      (.ok (names.map .module), st.advance config st.disk [] [.parsed p names.length])
    | .error f => (.error f, st) := by
  unfold visitSource visitSource.liftExcept
  rw [run_bind, run_get]
  simp only [run_bind, run_mk_pure]
  cases st.disk.parse p config.version with
  | error f => rfl
  | ok tree => simp only [run_tell_eq, run_pure]

/-- A visit of what is no directory comes to what the disk holds there. -/
lemma run_visit_leaf {st : Progress} (h : st.disk.isDirectory s.path = false) (depth : ℕ) :
    (visit config depth s.path).run st =
      ((st.disk.leaf config s).outcome,
        st.advance config st.disk [] (st.disk.leaf config s).told) := by
  have hthrow (f : Failure) : (throw f : Run (List Statement)).run st =
      (.error f, st.advance config st.disk [] []) := by
    rw [Progress.advance_nil]
    rfl
  unfold visit
  rw [run_bind, run_get]
  unfold Disk.leaf
  simp only [h, Bool.false_eq_true, if_false]
  split_ifs
  · exact hthrow _
  · rw [run_visitSource]
    cases st.disk.parse s.path config.version with
    | error f => exact hthrow f
    | ok tree => rfl
  · exact hthrow _

/-- A visit of a directory goes through the names that are listed there and writes the index. -/
lemma run_visit_package {st : Progress} (hr : st.disk.resolve s.path = .found s.place .directory)
    (depth : ℕ) :
    (visit config (depth + 1) s.path).run st = (do
      let statements ← List.flatten <$> ((st.disk.childNames s.place).filter
        (! Glob.isExcluded config.exclude ·)).mapM (visitChild config depth s)
      finishDirectory config s.path statements
      return statements : Run (List Statement)).run st := by
  have hexists : st.disk.pathExists s.path = true := by simp [Disk.pathExists, hr]
  have hdir : st.disk.isDirectory s.path = true := by simp [Disk.isDirectory, hr]
  rw [visit, run_bind, run_get, bind_map_left]
  simp only [hexists, hdir, Bool.not_true, Bool.false_eq_true, if_false, if_true]
  rw [Disk.candidates_eq hr, mk_pure_ok, pure_bind]
  rfl

/-- What comes of a directory whose children add up to some statements. -/
lemma run_finishDirectory {st : Progress} {statements : List Statement}
    {outcome : Except Failure (List Statement)} (children : List Trace)
    (hclose : st.disk.close config s (.ok statements) = (outcome, c)) :
    let t := Trace.package s children outcome
    (do finishDirectory config s.path statements; return statements : Run (List Statement)).run st =
      (outcome, st.advance config c t.index?.toList
        (if t.isEmpty then [] else t.notice?.toList)) := by
  intro t
  unfold finishDirectory
  cases statements with
  | nil =>
    obtain ⟨rfl, rfl⟩ := Prod.mk.inj hclose
    exact (congrArg _ (st.advance_nil config)).symm
  | cons x xs =>
    simp only [Disk.close, List.isEmpty_cons, Bool.false_eq_true, if_false] at hclose
    simp only [List.isEmpty_cons, Bool.not_false, if_true]
    rw [bind_assoc, run_bind, run_get]
    simp only [bind_assoc]
    rw [run_bind, run_mk_pure]
    cases hw : st.disk.writeIndex (s.path.child indexName) (x :: xs) config.sort with
    | error f =>
      rw [hw] at hclose
      obtain ⟨rfl, rfl⟩ := Prod.mk.inj hclose
      exact (congrArg _ (st.advance_nil config)).symm
    | ok disk =>
      rw [hw] at hclose
      obtain ⟨rfl, rfl⟩ := Prod.mk.inj hclose
      simp only [run_bind, run_modify, run_tell_eq, run_pure]
      simp only [Progress.advance, List.append_nil]
      rfl

/-- What a usable child adds to the statements of its directory, and what is told of it. -/
lemma run_statementsOfEntry {st : Progress} {e : Entry} {statements : List Statement}
    (hpath : t.site.path = e.path) (hkind : t.isPackage = e.isDirectory)
    (ho : t.outcome = .ok statements) :
    (statementsOfEntry config e statements).run st = (t.addition,
      st.advance config st.disk [] (if t.isEmpty then [.skippedEmpty t.site.path] else [])) := by
  have hname : t.moduleName = e.moduleName := by
    rw [Trace.moduleName, Entry.moduleName, hkind, hpath]
    rfl
  have hempty : t.isEmpty = (e.isDirectory && statements.isEmpty) := by
    rw [← hkind]
    cases t with
    | refused s f => rfl
    | source s names => rfl
    | package s children outcome =>
      obtain rfl : outcome = .ok statements := ho
      cases statements <;> rfl
  unfold statementsOfEntry
  rw [Trace.addition, ho, hempty, hname, hpath]
  split_ifs with h
  · rw [run_bind, run_tell_eq]
    simp only [run_pure, Except.map]
  · rw [run_pure, Progress.advance_nil]
    simp only [Except.map]

/-- A name that no usable child stands under adds nothing. -/
lemma run_visitChild_skip {st : Progress} {name : String}
    (h : ∀ e, st.disk.entry? s.path s.place name = some e → e.isEligible = false) (depth : ℕ) :
    (visitChild config depth s name).run st = (.ok [], st) := by
  unfold visitChild
  rw [run_bind, run_get]
  dsimp only
  split
  · rename_i e he
    rw [if_neg (by simp [h e he]), run_pure]
  · rw [run_pure]

/-- A usable child is visited. -/
lemma run_visitChild {st : Progress} {name : String} {e : Entry} {depth : ℕ}
    (he : st.disk.entry? s.path s.place name = some e) (hel : e.isEligible = true)
    (hpath : t.site.path = e.path) (hkind : t.isPackage = e.isDirectory)
    (hvisit : (visit config depth e.path).run st =
      (t.outcome, st.advance config b t.written t.told)) :
    (visitChild config depth s name).run st =
      (t.addition, st.advance config b t.written t.report) := by
  unfold visitChild
  rw [run_bind, run_get]
  simp only [he, hel, if_true]
  rw [run_bind, hvisit, Trace.report_eq]
  cases ho : t.outcome with
  | error f =>
    have hne : t.isEmpty = false := by
      cases t with
      | refused s f => rfl
      | source s names => rfl
      | package s children outcome =>
        obtain rfl : outcome = .error f := ho
        rfl
    simp [Trace.addition, ho, Except.map, hne]
  | ok statements =>
    simp only
    rw [run_statementsOfEntry hpath hkind ho, Progress.advance_advance, List.append_nil]
    rfl

/-- The first of some steps, and then the others. -/
lemma flatten_mapM_cons {α : Type} (step : String → Run (List α)) (name : String)
    (names : List String) : List.flatten <$> (name :: names).mapM step = (do
      let part ← step name
      let rest ← List.flatten <$> names.mapM step
      return part ++ rest) := by
  rw [List.mapM_cons]
  simp

end Run

namespace Trace

/-- A child whose visit returns adds some statements. -/
lemma exists_addition_eq_ok {statements : List Statement} (h : t.outcome = .ok statements) :
    ∃ part, t.addition = .ok part := by
  simp [addition, h, Except.map]

/-- A child whose visit fails adds its failure. -/
lemma addition_eq_error {f : Failure} (h : t.outcome = .error f) : t.addition = .error f := by
  simp [addition, h, Except.map]

/-- The statements of the first child come before those of the others. -/
lemma gathered_cons_of_ok {ts : List Trace} {part : List Statement} (h : t.addition = .ok part) :
    gathered (t :: ts) = (gathered ts).map (part ++ ·) := by
  unfold gathered
  rw [List.mapM_cons, h]
  cases ts.mapM addition <;> rfl

/-- The failure of the first child is that of all children. -/
lemma gathered_cons_of_error {ts : List Trace} {f : Failure} (h : t.addition = .error f) :
    gathered (t :: ts) = .error f := by
  unfold gathered
  rw [List.mapM_cons, h]
  rfl

end Trace

namespace Visits

/-- What is done for a usable child comes from its visit. -/
lemma run_visitChild {name : String} {e : Entry} {depth : ℕ} {st : Progress}
    (h : Visits config c (s.child name) t b) (hn : d.HasNames) (heq : d.EqOffFiles c)
    (hr : c.resolve s.path = .found s.place .directory)
    (he : c.entry? s.path s.place name = some e) (hel : e.isEligible = true) (hst : st.disk = c)
    (hvisit : (visit config depth (s.child name).path).run st =
      (t.outcome, st.advance config b t.written t.told)) :
    (visitChild config depth s name).run st =
      (t.addition, st.advance config b t.written t.report) := by
  have hpath : e.path = (s.child name).path := Disk.path_of_entry? he
  subst hst
  rw [← hpath] at hvisit
  have hsite : t.site.path = e.path := by rw [h.site_eq, hpath]
  exact Run.run_visitChild he hel hsite (h.isPackage_eq hn heq hr he hel) hvisit

/-- What a visit comes to is what the program does, wherever a run may be. -/
theorem run_visit (hn : d.HasNames) (h : Visits config c s t b) :
    ∀ {depth : ℕ} (st : Progress), d.EqOffFiles c → d.depth < s.place.length + depth →
      st.disk = c →
      (visit config depth s.path).run st = (t.outcome, st.advance config b t.written t.told) := by
  -- together with what is done for the names in a directory, whose children have a depth less
  induction h using @Visits.rec config _ (fun c s names children b _ =>
    ∀ {depth : ℕ} (st : Progress), d.EqOffFiles c →
      c.resolve s.path = .found s.place .directory → d.depth < s.place.length + 1 + depth →
      st.disk = c →
      (List.flatten <$> names.mapM (visitChild config depth s) : Run (List Statement)).run st =
        (Trace.gathered children, st.advance config b (children.flatMap Trace.written)
          (children.flatMap Trace.report))) with
  | @leaf c s hleaf =>
    intro depth st _ _ hst
    subst hst
    rw [Run.run_visit_leaf hleaf, Disk.written_leaf]
  | @package c b e s children outcome hr heach hclose ih =>
    intro depth st heq hdepth hst
    subst hst
    cases depth with
    | zero =>
      -- no directory stands deeper than the disk is
      have hlen := heq.length_le_depth hr
      omega
    | succ depth =>
      rw [Run.run_visit_package hr, Run.run_bind, ih _ heq hr (by omega) rfl]
      cases hg : Trace.gathered children with
      | error f =>
        rw [hg] at hclose
        obtain ⟨rfl, rfl⟩ := Prod.mk.inj hclose
        rw [Trace.written_package, Trace.told_package]
        simp [Trace.index?, Trace.notice?, Trace.outcome]
      | ok statements =>
        rw [hg] at hclose
        simp only
        rw [Run.run_finishDirectory children hclose, Progress.advance_advance,
          Trace.written_package, Trace.told_package]
        rfl
  | @nil c s depth st _ _ _ hst =>
    subst hst
    exact (congrArg _ (st.advance_nil config)).symm
  | @skip c b s name names children hunusable _ ih depth st heq hr hdepth hst =>
    subst hst
    rw [Run.flatten_mapM_cons, Run.run_bind, Run.run_visitChild_skip hunusable]
    simp only [List.nil_append, bind_pure]
    exact ih _ heq hr hdepth rfl
  | @visit c b e s name names entry t children statements he hel hvisits ho _ ih ih' depth st heq
      hr hdepth hst =>
    have hlen : d.depth < (s.child name).place.length + depth := by
      rw [Site.length_place_child]
      omega
    have hchild := hvisits.run_visitChild hn heq hr he hel hst (ih st heq hlen hst)
    have hoff := hvisits.eqOffFiles
    have hrest := ih' (st.advance config b t.written t.report) (heq.trans hoff)
      (hoff.follow_eq (Or.inl rfl) hr) hdepth rfl
    obtain ⟨part, hpart⟩ := Trace.exists_addition_eq_ok ho
    rw [Run.flatten_mapM_cons, Run.run_bind, hchild, hpart, Trace.gathered_cons_of_ok hpart]
    simp only [Run.run_bind, hrest, Progress.advance_advance, List.flatMap_cons]
    cases Trace.gathered children <;> rfl
  | @stop c b s name names entry t f he hel hvisits ho ih depth st heq hr hdepth hst =>
    have hlen : d.depth < (s.child name).place.length + depth := by
      rw [Site.length_place_child]
      omega
    have hchild := hvisits.run_visitChild hn heq hr he hel hst (ih st heq hlen hst)
    have hf : t.addition = .error f := Trace.addition_eq_error ho
    rw [Run.flatten_mapM_cons, Run.run_bind, hchild, hf, Trace.gathered_cons_of_error hf]
    simp

end Visits

/-! ## Ends of visits -/

/-- If visits of the children of a directory come to an end, so does a visit of all of them. -/
lemma exists_visitsEach (hn : d.HasNames)
    (hvisits : ∀ {c : Disk} {name : String}, d.EqOffFiles c →
      (∀ place, c.resolve (s.child name).path = .found place .directory →
        place = (s.child name).place) → ∃ t b, Visits config c (s.child name) t b)
    (names : List String) {c : Disk} (heq : d.EqOffFiles c)
    (hr : c.resolve s.path = .found s.place .directory) :
    ∃ children b, VisitsEach config c s names children b := by
  induction names generalizing c with
  | nil => exact ⟨[], c, .nil⟩
  | cons name names ih =>
    by_cases h : ∃ e, c.entry? s.path s.place name = some e ∧ e.isEligible = true
    · obtain ⟨e, he, hel⟩ := h
      have hchild := Disk.resolve_of_isEligible hn heq hr he hel
      -- a directory is eligible in its own place only, and a source leads to no directory
      have hplace : ∀ place, c.resolve (s.child name).path = .found place .directory →
          place = (s.child name).place := by
        intro place hplace
        split_ifs at hchild
        · simpa [hplace] using hchild
        · obtain ⟨_, _, hfile⟩ := hchild
          simp [hplace] at hfile
      obtain ⟨t, b, hvisit⟩ := hvisits heq hplace
      cases ho : t.outcome with
      | error f => exact ⟨[t], b, .stop he hel hvisit ho⟩
      | ok statements =>
        have hoff := hvisit.eqOffFiles
        obtain ⟨children, a, hrest⟩ := ih (heq.trans hoff) (hoff.follow_eq (Or.inl rfl) hr)
        exact ⟨t :: children, a, .visit he hel hvisit ho hrest⟩
    · obtain ⟨children, b, hrest⟩ := ih heq hr
      refine ⟨children, b, .skip (fun e he => ?_) hrest⟩
      simpa using fun hel => h ⟨e, he, hel⟩

/-- Every visit comes to an end: no directory that is visited lies deeper than the disk is. -/
theorem exists_visits (config : Config) (hn : d.HasNames) (depth : ℕ) :
    ∀ {c : Disk} {s : Site}, d.EqOffFiles c → d.depth < s.place.length + depth →
      (∀ place, c.resolve s.path = .found place .directory → place = s.place) →
      ∃ t b, Visits config c s t b := by
  induction depth with
  | zero =>
    intro c s heq hdepth hsite
    refine ⟨_, _, .leaf ?_⟩
    by_contra hdir
    obtain ⟨place, hr⟩ := Disk.isDirectory_iff.1 (by simpa using hdir)
    obtain rfl := hsite place hr
    have hlen := heq.length_le_depth hr
    omega
  | succ depth ih =>
    intro c s heq hdepth hsite
    cases hdir : c.isDirectory s.path with
    | false => exact ⟨_, _, .leaf hdir⟩
    | true =>
      obtain ⟨place, hr⟩ := Disk.isDirectory_iff.1 hdir
      obtain rfl := hsite place hr
      have hbelow (name : String) : d.depth < (s.child name).place.length + depth := by
        rw [Site.length_place_child]
        omega
      obtain ⟨children, b, heach⟩ := exists_visitsEach hn
        (fun {_ name} hoff hplace => ih hoff (hbelow name) hplace)
        ((c.childNames s.place).filter (! Glob.isExcluded config.exclude ·)) heq hr
      exact ⟨_, _, .package hr heach rfl⟩

/-- The configuration with or without notices. -/
def Config.withVerbose (c : Config) (verbose : Bool) : Config := { c with verbose }

/-- A visit does not depend on whether steps are told. -/
lemma Visits.withVerbose (h : Visits config c s t b) (verbose : Bool) :
    Visits (config.withVerbose verbose) c s t b := by
  induction h using @Visits.rec config _ (fun c s names children b _ =>
    VisitsEach (config.withVerbose verbose) c s names children b) with
  | leaf noDirectory => exact .leaf noDirectory
  | package directory _ close ih => exact .package directory ih close
  | nil => exact .nil
  | skip unusable _ ih => exact .skip unusable ih
  | visit entry eligible _ outcome _ ih ih' => exact .visit entry eligible ih outcome ih'
  | stop entry eligible _ outcome ih => exact .stop entry eligible ih outcome

/-! ## Whole runs -/

/-- A path as a site: where it leads to, if it leads to anything. -/
def Disk.siteOf (d : Disk) (p : Path) : Site :=
  ⟨p, match d.resolve p with
    | .found place _ => place
    | _ => []⟩

/-- The visit of the root of a run comes to an end. -/
theorem exists_visits_root (config : Config) (hn : d.HasNames) :
    ∃ t b, Visits config d (d.siteOf config.root) t b := by
  refine exists_visits config hn (d.depth + 1) (.refl d) (by omega) fun place hr => ?_
  simp only [Disk.siteOf] at hr ⊢
  rw [hr]

/-- A run comes to what the visit of its root comes to, however deep it may go beyond the depth of
the disk. -/
theorem run_visit_root (hn : d.HasNames) (h : Visits config d (d.siteOf config.root) t b)
    {depth : ℕ} (hdepth : d.depth < depth) :
    (visit config depth config.root).run (Progress.start d) =
      (t.outcome, (Progress.start d).advance config b t.written t.told) :=
  h.run_visit hn _ (.refl d) (by omega) rfl

end PackageIndex
