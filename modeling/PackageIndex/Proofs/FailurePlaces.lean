import PackageIndex.Proofs.Scans
import PackageIndex.Proofs.Termination

/-!
# Where runs fail

What a run visits is looked at twice.  A scan looks at each child of a directory by its own name and
reports it as a directory or a regular file.  The visit that follows looks at what the path of the
child leads to, and at its suffix.  The two agree on every disk (`Visits.visitedAs`), so that below
the root nothing is visited that is missing or of another kind.

Hence the failures that say so are about the root, and come before anything else is done.  All other
failures about a path come from a node that was visited: a source that cannot be read or parsed, or
a directory whose index cannot be written (`Disk.FailsAt`).  `generate_blames_visited` puts this
together.
-/

namespace PackageIndex

variable {config : Config} {d c b : Disk} {s : Site} {t u : Trace} {e : Entry} {f : Failure}
  {p : Path} {name : String}

namespace Trace

/-- Where a visit was refused no index was written. -/
@[simp] lemma written_refused (s : Site) (f : Failure) : (refused s f).written = [] := by
  rw [written, nodes, descendants_refused]
  rfl

/-- Where a visit was refused nothing was told. -/
@[simp] lemma told_refused (s : Site) (f : Failure) : (refused s f).told = [] := by
  rw [told, nodes, descendants_refused]
  rfl

/-- If children fail although the first of them does not, then others do. -/
lemma gathered_of_cons_error {ts : List Trace} {statements : List Statement}
    (h : gathered (t :: ts) = .error f) (ho : t.outcome = .ok statements) :
    gathered ts = .error f := by
  obtain ⟨part, hpart⟩ := exists_addition_eq_ok ho
  rw [gathered_cons_of_ok hpart] at h
  cases hrest : gathered ts with
  | ok statements => simp [hrest, Except.map] at h
  | error g => simpa [hrest, Except.map] using h

end Trace

namespace Disk

/-! ## What paths lead to -/

/-- A walk along a path finds something if the path resolves to it. -/
lemma leadsTo_found_iff {place : Location} {node : Node} :
    d.LeadsTo p (.found place node) ↔ d.resolve p = .found place node := by
  rw [leadsTo_iff]
  exact and_iff_left (by simp)

/-- The path leads to nothing: something on the way is missing or is no directory, or there are too
many links. -/
def LeadsNowhere (d : Disk) (p : Path) : Prop :=
  ∀ place node, ¬ d.LeadsTo p (.found place node)

/-- The path leads to what can be visited: to a directory, or to a regular file by the name of a
source. -/
def IsVisitable (d : Disk) (p : Path) : Prop :=
  (∃ place, d.LeadsTo p (.found place .directory)) ∨
    p.suffix = sourceSuffix ∧ ∃ place content, d.LeadsTo p (.found place (.file content))

/-- A path leads to nothing exactly if nothing is found to exist there. -/
lemma leadsNowhere_iff : d.LeadsNowhere p ↔ d.pathExists p = false := by
  simp [LeadsNowhere, leadsTo_found_iff, ← Bool.not_eq_true, pathExists_iff]

/-- What can be visited is found to be a directory, or a file by the name of a source. -/
lemma isVisitable_iff : d.IsVisitable p ↔
    d.isDirectory p = true ∨ p.suffix = sourceSuffix ∧ d.isFile p = true := by
  simp only [IsVisitable, leadsTo_found_iff, isDirectory_iff, isFile_iff]

/-- A path to something that can be visited does not lead to nothing. -/
lemma IsVisitable.not_leadsNowhere (h : d.IsVisitable p) : ¬ d.LeadsNowhere p := by
  intro hnone
  rcases h with ⟨place, h⟩ | ⟨-, place, content, h⟩
  · exact hnone _ _ h
  · exact hnone _ _ h

/-! ## What comes of what is no directory -/

/-- What comes of the visit of a source. -/
def parsed (d : Disk) (config : Config) (s : Site) : Trace :=
  match d.parse s.path config.version with
  | .ok tree => .source s (tree.exposedNames config.respectListing)
  | .error f => .refused s f

/-- The visit of a path that leads to nothing says that it is missing. -/
lemma leaf_of_leadsNowhere (h : d.LeadsNowhere s.path) :
    d.leaf config s = .refused s (.missing s.path) := by
  simp [leaf, leadsNowhere_iff.1 h]

/-- The visit of a regular file by the name of a source parses it. -/
lemma leaf_of_isFile (hfile : d.isFile s.path = true) (hsuffix : s.path.suffix = sourceSuffix) :
    d.leaf config s = d.parsed config s := by
  obtain ⟨place, content, hr⟩ := isFile_iff.1 hfile
  have hexists : d.pathExists s.path = true := pathExists_iff.2 ⟨place, _, hr⟩
  cases hparse : d.parse s.path config.version with
  | ok tree => simp [leaf, parsed, hexists, hfile, hsuffix, hparse]
  | error f => simp [leaf, parsed, hexists, hfile, hsuffix, hparse]

/-- The visit of anything else says that its kind is not supported. -/
lemma leaf_of_not_isVisitable (h : ¬ d.LeadsNowhere s.path) (hkind : ¬ d.IsVisitable s.path) :
    d.leaf config s = .refused s (.unsupported s.path) := by
  have hexists : d.pathExists s.path = true := by simpa [leadsNowhere_iff] using h
  have hsource : ¬ (d.isFile s.path = true ∧ s.path.suffix = sourceSuffix) := fun hsource =>
    hkind (isVisitable_iff.2 (Or.inr hsource.symm))
  simp [leaf, hexists, hsource]

/-- A directory whose children have not failed fails if its index cannot be written. -/
lemma writeIndex_of_close_error {statements : List Statement}
    (h : c.close config s (.ok statements) = (.error f, b)) :
    c.writeIndex (s.path.child indexName) statements config.sort = .error f := by
  unfold close at h
  dsimp only at h
  split_ifs at h
  · simp at h
  split at h
  · simp at h
  · rename_i g hw
    obtain rfl : g = f := Except.error.inj (Prod.mk.inj h).1
    exact hw

/-- A regular file can be read, but it may hold no text, or a text without a tree. -/
lemma parse_error_cases (hfile : d.isFile p = true) (h : d.parse p config.version = .error f) :
    (∃ fault, f = .notRead p (.undecodable fault)) ∨ f = .notParsed p ∨ f = .minorTooLarge := by
  obtain ⟨place, content, hr⟩ := isFile_iff.1 hfile
  have hread : d.read p = .ok content := by simp [read, hr]
  unfold parse at h
  split at h
  · rename_i fault htext
    obtain rfl := Except.error.inj h
    unfold readText at htext
    rw [hread] at htext
    dsimp only at htext
    split at htext
    · rename_i undecodable _
      obtain rfl := Except.error.inj htext
      exact Or.inl ⟨undecodable, rfl⟩
    · simp at htext
  · split_ifs at h
    · obtain rfl := Except.error.inj h
      exact Or.inr (Or.inr rfl)
    · split at h
      · simp at h
      · obtain rfl := Except.error.inj h
        exact Or.inr (Or.inl rfl)

/-! ## Entries and their visits -/

/-- A scan of the directory reports the entry, and the entry is kept to be visited. -/
def Offers (c : Disk) (exclude : List String) (directory : Path) (e : Entry) : Prop :=
  (∃ entries, c.scan exclude directory = .ok entries ∧ e ∈ entries) ∧ e.isEligible = true

/-- A visit went as an entry has announced.  What was reported as a directory was listed in its
place; what was reported as a file was parsed, as a source by its name. -/
structure VisitedAs (c : Disk) (config : Config) (e : Entry) (t : Trace) : Prop where
  path_eq : t.site.path = e.path
  directory : e.isDirectory = true →
    t.isPackage = true ∧ c.LeadsTo e.path (.found t.site.place .directory)
  source : e.isDirectory = false → e.path.suffix = sourceSuffix ∧
    (∃ place content, c.LeadsTo e.path (.found place (.file content))) ∧
    t = c.parsed config t.site

/-- What was visited in a directory was offered there when its turn came, on a disk that differs in
regular files at most, and it was visited on that disk as what it was offered as. -/
def VisitedIn (d : Disk) (config : Config) (s : Site) (u : Trace) : Prop :=
  ∃ c b e, d.EqOffFiles c ∧ Visits config c u.site u b ∧
    c.Offers config.exclude s.path e ∧ c.VisitedAs config e u

/-- A directory offers the entries that its usable names make, as far as they are eligible. -/
lemma offers_iff {exclude : List String} (hr : c.resolve s.path = .found s.place .directory) :
    c.Offers exclude s.path e ↔ (Glob.isExcluded exclude e.name = false ∧
      c.entry? s.path s.place e.name = some e) ∧ e.isEligible = true := by
  have hscan : c.scan exclude s.path = _ := scan_of_leadsTo_directory (leadsTo_found_iff.2 hr)
  refine and_congr_left fun _ => ?_
  constructor
  · rintro ⟨entries, hentries, hmem⟩
    obtain rfl := Except.ok.inj (hscan.symm.trans hentries)
    obtain ⟨name, hname, he⟩ := List.mem_filterMap.1 hmem
    obtain rfl : e.name = name := name_of_entry? he
    exact ⟨by simpa using (List.mem_filter.1 hname).2, he⟩
  · rintro ⟨hex, he⟩
    refine ⟨_, hscan, List.mem_filterMap.2 ⟨e.name, ?_, he⟩⟩
    have hnode : c.node? (s.place ++ [e.name]) ≠ none := by
      intro hnone
      simp [hnone, entry?] at he
    exact List.mem_filter.2 ⟨mem_childNames.2 hnode, by simp [hex]⟩

/-- What was visited as an entry has announced can be visited. -/
lemma VisitedAs.isVisitable (h : c.VisitedAs config e t) : c.IsVisitable e.path := by
  cases hd : e.isDirectory with
  | true => exact Or.inl ⟨_, (h.directory hd).2⟩
  | false => exact Or.inr ⟨(h.source hd).1, (h.source hd).2.1⟩

end Disk

namespace Visits

/-- A scan and the visit that follows it agree on what is visited, whatever links are on the way. -/
lemma visitedAs (h : Visits config c (s.child name) t b) (hn : d.HasNames)
    (heq : d.EqOffFiles c) (hr : c.resolve s.path = .found s.place .directory)
    (he : c.entry? s.path s.place name = some e) (hel : e.isEligible = true) :
    c.VisitedAs config e t := by
  have hpath : e.path = (s.child name).path := Disk.path_of_entry? he
  have hsite : t.site = s.child name := h.site_eq
  have hkind : t.isPackage = e.isDirectory := h.isPackage_eq hn heq hr he hel
  have hchild := Disk.resolve_of_isEligible hn heq hr he hel
  refine ⟨by rw [hsite, hpath], fun hd => ?_, fun hd => ?_⟩
  · rw [if_pos hd] at hchild
    refine ⟨hkind.trans hd, ?_⟩
    rw [hpath, hsite]
    exact Disk.leadsTo_found_iff.2 hchild
  · rw [if_neg (by simp [hd])] at hchild
    obtain ⟨place, content, hfile⟩ := hchild
    have hsuffix : e.path.suffix = sourceSuffix := Disk.suffix_of_isEligible hel hd
    rw [hpath] at hsuffix ⊢
    refine ⟨hsuffix, ⟨place, content, Disk.leadsTo_found_iff.2 hfile⟩, ?_⟩
    cases h with
    | leaf =>
      rw [Disk.site_leaf]
      exact Disk.leaf_of_isFile (Disk.isFile_iff.2 ⟨place, content, hfile⟩) hsuffix
    | package => simp [Trace.isPackage, hd] at hkind

end Visits

/-- Visits of children change nothing but regular files. -/
lemma VisitsEach.eqOffFiles {names : List String} {children : List Trace}
    (h : VisitsEach config c s names children b) : c.EqOffFiles b := by
  induction h using @VisitsEach.rec config (fun _ _ _ _ _ => True) with
  | leaf | package => trivial
  | nil => exact .refl _
  | skip _ _ ih => exact ih
  | visit _ _ hvisits _ _ _ ih => exact hvisits.eqOffFiles.trans ih
  | stop _ _ hvisits _ _ => exact hvisits.eqOffFiles

/-- Whatever is visited in a directory was offered there. -/
lemma VisitsEach.visitedIn {names : List String} {children : List Trace}
    (h : VisitsEach config c s names children b) (hn : d.HasNames) (heq : d.EqOffFiles c)
    (hr : c.resolve s.path = .found s.place .directory)
    (hex : ∀ name ∈ names, Glob.isExcluded config.exclude name = false) :
    ∀ u ∈ children, d.VisitedIn config s u := by
  -- the turn of a child comes on a disk that its siblings may have changed already
  have hvisited {c b : Disk} {s : Site} {name : String} {names : List String} {e : Entry}
      {t : Trace} (heq : d.EqOffFiles c) (hr : c.resolve s.path = .found s.place .directory)
      (hex : ∀ other ∈ name :: names, Glob.isExcluded config.exclude other = false)
      (he : c.entry? s.path s.place name = some e) (hel : e.isEligible = true)
      (h : Visits config c (s.child name) t b) : d.VisitedIn config s t := by
    have hname : e.name = name := Disk.name_of_entry? he
    have hoffers : c.Offers config.exclude s.path e := by
      refine (Disk.offers_iff hr).2 ⟨⟨?_, ?_⟩, hel⟩
      · exact hex _ (by simp [hname])
      · rwa [hname]
    have hsite : Visits config c t.site t b := by rwa [h.site_eq]
    exact ⟨c, b, e, heq, hsite, hoffers, h.visitedAs hn heq hr he hel⟩
  induction h using @VisitsEach.rec config (fun _ _ _ _ _ => True) with
  | leaf | package => trivial
  | nil => simp
  | skip _ _ ih => exact ih heq hr fun name hname => hex name (List.mem_cons_of_mem _ hname)
  | visit he hel hvisits _ _ _ ih =>
    intro u hu
    rcases List.mem_cons.1 hu with rfl | hu
    · exact hvisited heq hr hex he hel hvisits
    · have hoff := hvisits.eqOffFiles
      exact ih (heq.trans hoff) (hoff.follow_eq (Or.inl rfl) hr)
        (fun name hname => hex name (List.mem_cons_of_mem _ hname)) u hu
  | stop he hel hvisits _ _ =>
    intro u hu
    obtain rfl := List.mem_singleton.1 hu
    exact hvisited heq hr hex he hel hvisits

/-! ## Failures of nodes -/

/-- How the visit of a node fails by itself, and not by what lies below it: a source cannot be read
or parsed, or the children of a directory have added up to some statements and the index cannot be
written. -/
inductive Disk.FailsAt (d : Disk) (config : Config) : Trace → Failure → Prop
  | source {c : Disk} {s : Site} {f : Failure} : d.EqOffFiles c → c.isFile s.path = true →
    s.path.suffix = sourceSuffix → c.parse s.path config.version = .error f →
    FailsAt d config (.refused s f) f
  | index {c : Disk} {s : Site} {children : List Trace} {statements : List Statement}
    {f : Failure} : d.EqOffFiles c → Trace.gathered children = .ok statements →
    c.writeIndex (s.path.child indexName) statements config.sort = .error f →
    FailsAt d config (.package s children (.error f)) f

/-- The failure is about the path of a source that was visited, which could not be read or parsed,
or about the path of the index of a directory that was visited, which could not be written. -/
def Failure.Concerns (f : Failure) (u : Trace) : Prop :=
  (u.isPackage = false ∧ u.site.path.suffix = sourceSuffix ∧
    ((∃ fault, f = .notRead u.site.path fault) ∨ f = .notParsed u.site.path)) ∨
  (u.isPackage = true ∧ ∃ fault, f = .notWritten (u.site.path.child indexName) fault)

/-- A node that fails by itself fails with a failure about itself, if it is about a path at all. -/
lemma Disk.FailsAt.concerns_or (h : d.FailsAt config u f) : f.Concerns u ∨ f = .minorTooLarge := by
  cases h with
  | @source c s f _ hfile hsuffix hparse =>
    rcases Disk.parse_error_cases hfile hparse with ⟨fault, hf⟩ | hf | hf
    · exact Or.inl (Or.inl ⟨rfl, hsuffix, Or.inl ⟨_, hf⟩⟩)
    · exact Or.inl (Or.inl ⟨rfl, hsuffix, Or.inr hf⟩)
    · exact Or.inr hf
  | @index c s children statements f _ _ hw =>
    unfold Disk.writeIndex at hw
    split at hw
    · simp at hw
    · rename_i fault _
      exact Or.inl (Or.inr ⟨rfl, fault, (Except.error.inj hw).symm⟩)

namespace Visits

/-- A visit of what can be visited fails at a node that was visited. -/
lemma exists_failsAt (h : Visits config c s t b) (hn : d.HasNames) (heq : d.EqOffFiles c)
    (hkind : c.IsVisitable s.path) (hf : t.outcome = .error f) :
    ∃ u ∈ t.nodes, d.FailsAt config u f := by
  -- children fail as the last of them that was visited, at which the visits stopped
  induction h using @Visits.rec config _ (fun c s names children b _ =>
    d.EqOffFiles c → c.resolve s.path = .found s.place .directory →
      Trace.gathered children = .error f → ∃ u ∈ children.flatMap Trace.nodes,
        d.FailsAt config u f) with
  | @leaf c s hleaf =>
    rw [Disk.isVisitable_iff, hleaf] at hkind
    obtain ⟨hsuffix, hfile⟩ := hkind.resolve_left (by simp)
    rw [Disk.leaf_of_isFile hfile hsuffix] at hf ⊢
    unfold Disk.parsed at hf ⊢
    cases hparse : c.parse s.path config.version with
    | ok tree => simp [hparse, Trace.outcome] at hf
    | error g =>
      rw [hparse] at hf
      obtain rfl : g = f := Except.error.inj hf
      exact ⟨_, Trace.mem_nodes.2 (Or.inr rfl), .source heq hfile hsuffix hparse⟩
  | @package c b e s children outcome hr heach hclose ih =>
    obtain rfl : outcome = .error f := hf
    cases hg : Trace.gathered children with
    | error g =>
      rw [hg] at hclose
      obtain rfl : g = f := Except.error.inj (Prod.mk.inj hclose).1
      obtain ⟨u, hu, hfails⟩ := ih heq hr hg
      exact ⟨u, Trace.mem_nodes.2 (Or.inl (by rwa [Trace.descendants_package])), hfails⟩
    | ok statements =>
      -- the children have not failed, so that the index could not be written
      rw [hg] at hclose
      have hw := Disk.writeIndex_of_close_error hclose
      exact ⟨_, Trace.mem_nodes.2 (Or.inr rfl), .index (heq.trans heach.eqOffFiles) hg hw⟩
  | nil heq hr hg => simp [Trace.gathered, pure, Except.pure, Except.map] at hg
  | skip _ _ ih heq hr hg => exact ih heq hr hg
  | @visit c b a s name names e t children statements he hel hvisits ho _ ih ih' heq hr hg =>
    have hoff := hvisits.eqOffFiles
    have hrest : Trace.gathered children = .error f := Trace.gathered_of_cons_error hg ho
    obtain ⟨u, hu, hfails⟩ := ih' (heq.trans hoff) (hoff.follow_eq (Or.inl rfl) hr) hrest
    refine ⟨u, ?_, hfails⟩
    rw [List.flatMap_cons]
    exact List.mem_append_right _ hu
  | @stop c b s name names e t g he hel hvisits ho ih heq hr hg =>
    rw [Trace.gathered_cons_of_error (Trace.addition_eq_error ho)] at hg
    obtain rfl : g = f := Except.error.inj hg
    have hvisitable := (hvisits.visitedAs hn heq hr he hel).isVisitable
    have hpath := Disk.path_of_entry? he
    rw [hpath] at hvisitable
    simpa using ih heq hvisitable ho

/-- A directory that was visited was listed, and its children were visited in turn. -/
lemma exists_visitsEach_of_package {children : List Trace}
    {outcome : Except Failure (List Statement)} (h : Visits config c s t b)
    (ht : t = .package s children outcome) : c.resolve s.path = .found s.place .directory ∧
      ∃ a, VisitsEach config c s
        ((c.childNames s.place).filter (! Glob.isExcluded config.exclude ·)) children a := by
  cases h with
  | leaf =>
    have hleaf := c.isPackage_leaf config s
    simp [ht, Trace.isPackage] at hleaf
  | package directory each close =>
    obtain ⟨-, rfl, -⟩ := Trace.package.inj ht
    exact ⟨directory, _, each⟩

/-- The visit of a path fails at once if nothing can be visited there; otherwise it fails at a node
that was visited, if at all. -/
lemma outcome_cases (h : Visits config d s t b) (hn : d.HasNames) :
    (d.LeadsNowhere s.path ∧ t = .refused s (.missing s.path) ∧ b = d) ∨
      (¬ d.LeadsNowhere s.path ∧ ¬ d.IsVisitable s.path ∧
        t = .refused s (.unsupported s.path) ∧ b = d) ∨
      (d.IsVisitable s.path ∧ ∀ f, t.outcome = .error f →
        (∃ u ∈ t.nodes, f.Concerns u) ∨ f = .minorTooLarge) := by
  by_cases hkind : d.IsVisitable s.path
  · refine Or.inr (Or.inr ⟨hkind, fun f hf => ?_⟩)
    obtain ⟨u, hu, hfails⟩ := h.exists_failsAt hn (.refl d) hkind hf
    exact hfails.concerns_or.imp_left fun hconcerns => ⟨u, hu, hconcerns⟩
  cases h with
  | package directory =>
    exact absurd (Or.inl ⟨_, Disk.leadsTo_found_iff.2 directory⟩) hkind
  | leaf =>
    by_cases hnone : d.LeadsNowhere s.path
    · exact Or.inl ⟨hnone, Disk.leaf_of_leadsNowhere hnone, rfl⟩
    · exact Or.inr (Or.inl ⟨hnone, hkind, Disk.leaf_of_not_isVisitable hnone hkind, rfl⟩)

/-- A run from a root that cannot be visited ends where it has started. -/
lemma generate_cases (h : Visits config d (d.siteOf config.root) t b) (hn : d.HasNames) :
    (d.LeadsNowhere config.root ∧
      generate config d = (.error (.missing config.root), Progress.start d)) ∨
    (¬ d.LeadsNowhere config.root ∧ ¬ d.IsVisitable config.root ∧
      generate config d = (.error (.unsupported config.root), Progress.start d)) ∨
    (d.IsVisitable config.root ∧ ∀ f, (generate config d).1 = .error f →
      (∃ u ∈ t.nodes, f.Concerns u) ∨ f = .minorTooLarge) := by
  have hrun : generate config d =
      (t.outcome, (Progress.start d).advance config b t.written t.told) :=
    run_visit_root hn h (by omega)
  have hdone {f : Failure} (ht : t = .refused (d.siteOf config.root) f) (hb : b = d) :
      generate config d = (.error f, Progress.start d) := by
    rw [hrun, ht, hb, Trace.written_refused, Trace.told_refused]
    exact congrArg _ (Progress.advance_nil _ config)
  rcases h.outcome_cases hn with ⟨hnone, ht, hb⟩ | ⟨hsome, hkind, ht, hb⟩ | ⟨hkind, hfails⟩
  · exact Or.inl ⟨hnone, hdone ht hb⟩
  · exact Or.inr (Or.inl ⟨hsome, hkind, hdone ht hb⟩)
  · refine Or.inr (Or.inr ⟨hkind, fun f hf => hfails f ?_⟩)
    rwa [hrun] at hf

end Visits

/-! ## Whole runs -/

/-- A run fails because something is missing exactly if its root leads to nothing, and because of an
unsupported kind exactly if its root leads to something else than a directory or a source.  Such a
failure is about the root, and the run has done nothing.  On whatever disk a run may be, an entry
that a scan offers is visited as what it was reported as, and nothing else is visited in a
directory.  Any other failure that is about a path is about a source at or below the root that
cannot be read or parsed, or about the index of a directory that was visited. -/
theorem generate_blames_visited (config : Config) (hn : d.HasNames) :
    let root := d.siteOf config.root
    let run := generate config d
    (∀ p, run.1 = .error (.missing p) ↔ p = config.root ∧ d.LeadsNowhere config.root) ∧
    (∀ p, run.1 = .error (.unsupported p) ↔
      p = config.root ∧ ¬ d.LeadsNowhere config.root ∧ ¬ d.IsVisitable config.root) ∧
    (∀ p, run.1 = .error (.missing p) ∨ run.1 = .error (.unsupported p) →
      run.2 = Progress.start d) ∧
    (∀ (c b : Disk) (s : Site) (e : Entry) (u : Trace), d.EqOffFiles c →
      c.LeadsTo s.path (.found s.place .directory) → c.Offers config.exclude s.path e →
      Visits config c (s.child e.name) u b → c.VisitedAs config e u) ∧
    ∃ t after, Visits config d root t after ∧ run.1 = t.outcome ∧
      (∀ u ∈ t.nodes, ∃ names, u.site = root.descend names) ∧
      (∀ s children outcome, .package s children outcome ∈ t.nodes →
        (∃ c b, d.EqOffFiles c ∧ VisitsEach config c s
          ((c.childNames s.place).filter (! Glob.isExcluded config.exclude ·)) children b) ∧
        ∀ u ∈ children, d.VisitedIn config s u) ∧
      ∀ f p, run.1 = .error f → f.path? = some p →
        (p = config.root ∧ (f = .missing p ∨ f = .unsupported p)) ∨
          ∃ u ∈ t.nodes, f.Concerns u := by
  intro root run
  obtain ⟨t, after, h⟩ := exists_visits_root config hn
  have houtcome : run.1 = t.outcome := by
    rw [show run = _ from run_visit_root hn h (by omega)]
  -- failures about nodes that were visited are of other kinds than the two that the root has
  have hother {f : Failure} (hf : (∃ u ∈ t.nodes, f.Concerns u) ∨ f = .minorTooLarge) (p : Path) :
      f ≠ .missing p ∧ f ≠ .unsupported p := by
    rcases hf with ⟨u, -, ⟨-, -, ⟨fault, rfl⟩ | rfl⟩ | ⟨-, fault, rfl⟩⟩ | rfl <;> simp
  have hcases := h.generate_cases hn
  refine ⟨fun p => ?_, fun p => ?_, fun p => ?_, fun c b s e u hoff hleads hoffers hvisits => ?_,
    t, after, h, houtcome, fun u hu => h.exists_descend hu, fun s children outcome hmem => ?_,
    fun f p hf hp => ?_⟩
  · rcases hcases with ⟨hnone, hfailed⟩ | ⟨hsome, -, hfailed⟩ | ⟨hkind, hfails⟩
    · simp [run, hfailed, hnone, eq_comm]
    · simp [run, hfailed, hsome]
    · have hsome := hkind.not_leadsNowhere
      exact iff_of_false (fun hf => (hother (hfails _ hf) p).1 rfl) fun hroot => hsome hroot.2
  · rcases hcases with ⟨hnone, hfailed⟩ | ⟨hsome, hkind, hfailed⟩ | ⟨hkind, hfails⟩
    · simp [run, hfailed, hnone]
    · simp [run, hfailed, hsome, hkind, eq_comm]
    · exact iff_of_false (fun hf => (hother (hfails _ hf) p).2 rfl) fun hroot => hroot.2.2 hkind
  · rcases hcases with ⟨-, hfailed⟩ | ⟨-, -, hfailed⟩ | ⟨-, hfails⟩
    · exact fun _ => congrArg Prod.snd hfailed
    · exact fun _ => congrArg Prod.snd hfailed
    · rintro (hf | hf)
      · exact absurd rfl (hother (hfails _ hf) p).1
      · exact absurd rfl (hother (hfails _ hf) p).2
  · have hr : c.resolve s.path = .found s.place .directory := Disk.leadsTo_found_iff.1 hleads
    obtain ⟨⟨-, he⟩, hel⟩ := (Disk.offers_iff hr).1 hoffers
    exact hvisits.visitedAs hn hoff hr he hel
  · obtain ⟨c, b, hoff, hvisits⟩ := h.exists_of_mem_nodes hmem
    obtain ⟨hr, a, heach⟩ := hvisits.exists_visitsEach_of_package rfl
    refine ⟨⟨c, a, hoff, heach⟩, heach.visitedIn hn hoff hr fun name hname => ?_⟩
    simpa using (List.mem_filter.1 hname).2
  · rcases hcases with ⟨-, hfailed⟩ | ⟨-, -, hfailed⟩ | ⟨-, hfails⟩
    · obtain rfl : .missing config.root = f := by simpa [run, hfailed] using hf
      obtain rfl : config.root = p := by simpa [Failure.path?] using hp
      exact Or.inl ⟨rfl, Or.inl rfl⟩
    · obtain rfl : .unsupported config.root = f := by simpa [run, hfailed] using hf
      obtain rfl : config.root = p := by simpa [Failure.path?] using hp
      exact Or.inl ⟨rfl, Or.inr rfl⟩
    · refine Or.inr ((hfails f hf).resolve_right ?_)
      rintro rfl
      simp [Failure.path?] at hp

/-- A package with a directory where the index of the directory inside belongs.  Links to the source
in there have the name of a source and another name, and one more link leads to itself. -/
def blockedDisk : Disk where
  entries := [(["p"], .directory), (["p", "a.py"], .link "q/b.py"), (["p", "q"], .directory),
    (["p", "q", "b.py"], .file "x = 1\n".toUTF8), (["p", "q", "__init__.py"], .directory),
    (["p", "notes"], .link "a.py"), (["loop"], .link "loop")]
  mentions := [["p"], ["p", "a.py"], ["p", "q"], ["p", "q", "b.py"], ["p", "q", "__init__.py"]]

/-- The run from the package fails at the index of the directory inside.  Runs from the two links
that cannot be visited fail before anything else is done. -/
theorem generate_blames_visited_blockedDisk :
    let loop : Path := ⟨"", ["loop"]⟩
    let notes : Path := ⟨"", ["p", "notes"]⟩
    let f : Failure := .notWritten ⟨"", ["p", "q", "__init__.py"]⟩ .isDirectory
    blockedDisk.HasNames ∧ (generate sampleConfig blockedDisk).1 = .error f ∧
      (∃ t after, Visits sampleConfig blockedDisk ⟨⟨"", ["p"]⟩, ["p"]⟩ t after ∧
        ∃ u ∈ t.nodes, f.Concerns u) ∧
      (generate (sampleConfig.withRoot loop) blockedDisk).1 = .error (.missing loop) ∧
      (generate (sampleConfig.withRoot loop) blockedDisk).2 = Progress.start blockedDisk ∧
      (generate (sampleConfig.withRoot notes) blockedDisk).1 = .error (.unsupported notes) ∧
      (generate (sampleConfig.withRoot notes) blockedDisk).2 = Progress.start blockedDisk := by
  intro loop notes f
  have hnames : blockedDisk.HasNames := by decide +kernel
  have hroot : blockedDisk.siteOf sampleConfig.root = ⟨⟨"", ["p"]⟩, ["p"]⟩ := by decide +kernel
  have herror : (generate sampleConfig blockedDisk).1 = .error f := by decide +kernel
  have hloop : blockedDisk.LeadsNowhere loop := Disk.leadsNowhere_iff.2 (by decide +kernel)
  have hnotes : ¬ blockedDisk.LeadsNowhere notes ∧ ¬ blockedDisk.IsVisitable notes := by
    rw [Disk.leadsNowhere_iff, Disk.isVisitable_iff]
    decide +kernel
  obtain ⟨-, -, -, -, t, after, h, -, -, -, hblames⟩ := generate_blames_visited sampleConfig hnames
  obtain ⟨hmissing, -, hstart, -⟩ := generate_blames_visited (sampleConfig.withRoot loop) hnames
  obtain ⟨-, hunsupported, hstart', -⟩ :=
    generate_blames_visited (sampleConfig.withRoot notes) hnames
  have hlost := (hmissing loop).2 ⟨rfl, hloop⟩
  have hstrange := (hunsupported notes).2 ⟨rfl, hnotes⟩
  refine ⟨hnames, herror, ⟨t, after, hroot ▸ h, ?_⟩, hlost, hstart loop (Or.inl hlost), hstrange,
    hstart' notes (Or.inr hstrange)⟩
  exact (hblames f _ herror rfl).resolve_left (by simp [f])

end PackageIndex
