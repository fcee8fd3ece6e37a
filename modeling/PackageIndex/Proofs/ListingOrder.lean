import PackageIndex.Proofs.Indexes
import PackageIndex.Proofs.Sections

/-!
# The order of listings

Two disks may hold the same and list the children of their directories in different orders.  A run
sees the same children on both (`SameNodes.eligible_perm`), and by induction along the walk what it
aggregates for a directory is the same up to order (`SameNodes.aggregated_perm`).  Whether it
returns depends on the places of the nodes only (`generate_returns_iff`).

Sorted indexes do not show the order of the statements that they are made from.
`generate_order_free` concludes that runs which sort leave the same disk behind.
-/

namespace PackageIndex

namespace Disk

/-- Two disks hold the same at every place; only the order in which directories list their children
may differ. -/
def SameNodes (d c : Disk) : Prop := ∀ place, c.node? place = d.node? place

namespace SameNodes

variable {d c : Disk} {config : Config} {exclude : List String} {s : Site}

lemma symm (h : d.SameNodes c) : c.SameNodes d := fun place => (h place).symm

/-! ## Paths and listings -/

/-- A walk takes the same steps up to the next link. -/
lemma stride_eq (h : d.SameNodes c) (steps : List String) :
    ∀ directory : Location, c.stride directory steps = d.stride directory steps := by
  induction steps with
  | nil => exact fun _ => rfl
  | cons step steps ih =>
    intro directory
    by_cases hs : IsName step
    · rw [stride_cons hs, stride_cons hs, h]
      simp only [ih]
    · rw [stride_cons_of_not_isName hs, stride_cons_of_not_isName hs, ih]

/-- A walk ends in the same way, through links or without. -/
lemma follow_eq (h : d.SameNodes c) (links : ℕ) :
    ∀ (directory : Location) (steps : List String),
      c.follow links directory steps = d.follow links directory steps := by
  induction links with
  | zero =>
    intro directory steps
    unfold follow
    rw [h.stride_eq]
  | succ links ih =>
    intro directory steps
    unfold follow
    rw [h.stride_eq]
    simp only [ih]

/-- Every path leads to the same place. -/
lemma resolve_eq (h : d.SameNodes c) (p : Path) : c.resolve p = d.resolve p :=
  h.follow_eq _ _ _

/-- Every file is read with the same result. -/
lemma read_eq (h : d.SameNodes c) (p : Path) : c.read p = d.read p := by
  unfold read
  rw [h.resolve_eq]

/-- The names of one disk are proper if those of the other are. -/
lemma hasNames (h : d.SameNodes c) (hd : d.HasNames) : c.HasNames := fun directory name hc =>
  hd directory name (h _ ▸ hc)

/-- Links avoid indexes on one disk if they do so on the other. -/
lemma linksAvoidIndexes (h : d.SameNodes c) {root : Location} (hd : d.LinksAvoidIndexes root) :
    c.LinksAvoidIndexes root where
  name_ne directory name target hroot hlink := hd.name_ne directory name target hroot (h _ ▸ hlink)
  target_ne directory name target place hroot hlink htarget :=
    hd.target_ne directory name target place hroot (h _ ▸ hlink) (h.follow_eq _ _ _ ▸ htarget)

/-- Every source is parsed with the same result. -/
lemma parse_eq (h : d.SameNodes c) (p : Path) (version : Version) :
    c.parse p version = d.parse p version :=
  parse_eq_of_resolve (h.resolve_eq p)

/-- Every source exposes the same names. -/
lemma exposed_eq (h : d.SameNodes c) (p : Path) : c.exposed config p = d.exposed config p := by
  unfold exposed
  rw [h.parse_eq]

/-- A name makes the same entry of a directory. -/
lemma entry?_eq (h : d.SameNodes c) (p : Path) (place : Location) (name : String) :
    c.entry? p place name = d.entry? p place name := by
  unfold entry? isFile
  simp only [h (place ++ [name]), h.resolve_eq]

/-- A directory lists the same names. -/
lemma childNames_perm (h : d.SameNodes c) (directory : Location) :
    (c.childNames directory).Perm (d.childNames directory) := by
  refine (List.perm_ext_iff_of_nodup (nodup_childNames _ _) (nodup_childNames _ _)).2 fun name => ?_
  rw [mem_childNames, mem_childNames, h]

/-- A run visits the same children of a directory. -/
lemma eligible_perm (h : d.SameNodes c) (exclude : List String) (s : Site) :
    (c.eligible exclude s).Perm (d.eligible exclude s) := by
  unfold eligible
  simp only [h.entry?_eq]
  exact ((h.childNames_perm s.place).filter _).filterMap _

/-! ## Walks -/

/-- A run visits the directories of one disk on the other too. -/
lemma reaches (h : d.SameNodes c) {r : Site} (hs : d.Reaches exclude r s) :
    c.Reaches exclude r s := by
  induction hs with
  | refl => exact .refl
  | step _ he hd ih => exact ih.step ((h.eligible_perm exclude _).mem_iff.2 he) hd

/-- A run visits the same directories on both. -/
lemma reaches_iff (h : d.SameNodes c) {r : Site} :
    c.Reaches exclude r s ↔ d.Reaches exclude r s :=
  ⟨h.symm.reaches, h.reaches⟩

/-- Sources lie below the same directories. -/
lemma hasSource_iff (h : d.SameNodes c) : c.HasSource exclude s ↔ d.HasSource exclude s := by
  unfold HasSource
  simp only [h.reaches_iff, (h.eligible_perm exclude _).mem_iff]

/-- The statements of a directory are the same up to order. -/
theorem aggregated_perm (h : d.SameNodes c) (config : Config) (s : Site) :
    (c.aggregated config s).Perm (d.aggregated config s) := by
  induction s using induction_eligible d config.exclude with
  | step s ih =>
    rw [aggregated_eq, aggregated_eq]
    refine List.Perm.flatMap (h.eligible_perm config.exclude s) fun e he => ?_
    have he' := (h.eligible_perm config.exclude s).mem_iff.1 he
    simp only [h.hasSource_iff, h.exposed_eq]
    by_cases hd : e.isDirectory = true
    · rw [if_pos hd, if_pos hd]
      split_ifs
      · exact ((ih e he' hd).map _).cons _
      · exact List.Perm.refl _
    · rw [if_neg hd, if_neg hd]

/-- The index of a directory has the same text if it is sorted. -/
lemma render_aggregated_eq (h : d.SameNodes c) (hsort : config.sort = true) (s : Site) :
    Index.render (c.aggregated config s) config.sort =
      Index.render (d.aggregated config s) config.sort := by
  rw [hsort]
  exact Index.render_eq_of_perm (h.aggregated_perm config s)

/-! ## Failures -/

/-- If no node fails on one disk, none does on the other. -/
lemma failure?_eq_none (h : d.SameNodes c) {r : Site}
    (hnone : ∀ o ∈ (d.outline config.exclude r).nodes, d.failure? config o = none) :
    ∀ o ∈ (c.outline config.exclude r).nodes, c.failure? config o = none := by
  intro o ho
  rcases mem_nodes_outline_iff.1 ho with ⟨s, hs, rfl⟩ | ⟨s, e, hs, he, hd, rfl⟩
  · have hdone := hnone _ (mem_nodes_outline_iff.2 (Or.inl ⟨s, h.reaches_iff.1 hs, rfl⟩))
    rw [failure?_outline_eq_none_iff] at hdone ⊢
    rwa [h.hasSource_iff, h]
  · have he' := (h.eligible_perm config.exclude s).mem_iff.1 he
    have hdone := hnone _ (mem_nodes_outline_iff.2
      (Or.inr ⟨s, e, h.reaches_iff.1 hs, he', hd, rfl⟩))
    rw [failure?_source_eq_none_iff] at hdone ⊢
    rwa [h.parse_eq]

end SameNodes

end Disk

/-! ## Runs -/

variable {d c : Disk} {config : Config} {place : Location}

/-- On disks that hold the same, runs that sort return on both or on neither.  If they return, they
give the same statements up to order, write the same indexes up to order, and leave the same disk
behind, so that each index has the same text. -/
theorem generate_order_free (hsort : config.sort = true) (hn : d.HasNames)
    (hr : d.resolve config.root = .found place .directory) (hl : d.LinksAvoidIndexes place)
    (h : d.SameNodes c) :
    let first := generate config d
    let other := generate config c
    ((∃ statements, other.1 = .ok statements) ↔ ∃ statements, first.1 = .ok statements) ∧
      ∀ statements statements', first.1 = .ok statements → other.1 = .ok statements' →
        statements'.Perm statements ∧ other.2.written.Perm first.2.written ∧
        first.2.disk.SameNodes other.2.disk ∧
        ∀ p ∈ first.2.written, ∃ content,
          first.2.disk.read p = .ok content ∧ other.2.disk.read p = .ok content := by
  intro first other
  have hn' : c.HasNames := h.hasNames hn
  have hr' : c.resolve config.root = .found place .directory := (h.resolve_eq _).trans hr
  have hl' : c.LinksAvoidIndexes place := h.linksAvoidIndexes hl
  refine ⟨?_, fun statements statements' hok hok' => ?_⟩
  · rw [generate_returns_iff hn' hr' hl', generate_returns_iff hn hr hl]
    exact ⟨h.symm.failure?_eq_none, h.failure?_eq_none⟩
  have hdisk : first.2.disk.SameNodes other.2.disk := by
    intro there
    -- a place is that of an index of both runs or of neither
    by_cases hindex : ∃ s, d.Reaches config.exclude ⟨config.root, place⟩ s ∧
        d.HasSource config.exclude s ∧ s.place ++ [indexName] = there
    · obtain ⟨s, hs, hsource, rfl⟩ := hindex
      rw [node?_index_of_ok hn hr hl hok hs hsource,
        node?_index_of_ok hn' hr' hl' hok' (h.reaches hs) (h.hasSource_iff.2 hsource), h,
        h.render_aggregated_eq hsort]
    · rw [node?_of_ok hn hr hl hok fun s hs hsource heq => hindex ⟨s, hs, hsource, heq⟩,
        node?_of_ok hn' hr' hl' hok' fun s hs hsource heq =>
          hindex ⟨s, h.reaches_iff.1 hs, h.hasSource_iff.1 hsource, heq⟩, h]
  refine ⟨?_, ?_, hdisk, fun p hp => ?_⟩
  · rw [statements_of_ok hn hr hl hok, statements_of_ok hn' hr' hl' hok']
    exact h.aggregated_perm config _
  · refine (List.perm_ext_iff_of_nodup (nodup_written_of_ok hn' hr' hl' hok')
      (nodup_written_of_ok hn hr hl hok)).2 fun p => ?_
    rw [mem_written_of_ok hn hr hl hok, mem_written_of_ok hn' hr' hl' hok']
    simp only [h.reaches_iff, h.hasSource_iff]
  · obtain ⟨s, hs, hsource, rfl⟩ := (mem_written_of_ok hn hr hl hok).1 hp
    have hread := read_index_of_ok hn hr hl hok hs hsource
    exact ⟨_, hread, (hdisk.read_eq _).trans hread⟩

/-- The small disk with its children listed the other way round. -/
def reversedDisk : Disk := { sampleDisk with mentions := sampleDisk.mentions.reverse }

/-- On the small disk and on the reversed one the statements are aggregated in different orders, but
the index of the package is the same. -/
theorem generate_order_free_reversedDisk :
    (generate sampleConfig reversedDisk).1 =
        .ok [.module "l", .module "q", .member "q" "b", .module "a", .member "a" "x"] ∧
      (generate sampleConfig reversedDisk).2.written.Perm
        [⟨"", ["p", "q", "__init__.py"]⟩, ⟨"", ["p", "__init__.py"]⟩] ∧
      ∀ place, (generate sampleConfig reversedDisk).2.disk.node? place =
        (generate sampleConfig sampleDisk).2.disk.node? place := by
  have hok : (generate sampleConfig sampleDisk).1 =
      .ok [.module "a", .member "a" "x", .module "q", .member "q" "b", .module "l"] := by
    decide +kernel
  have hok' : (generate sampleConfig reversedDisk).1 =
      .ok [.module "l", .module "q", .member "q" "b", .module "a", .member "a" "x"] := by
    decide +kernel
  have hwritten : (generate sampleConfig sampleDisk).2.written =
      [⟨"", ["p", "q", "__init__.py"]⟩, ⟨"", ["p", "__init__.py"]⟩] := by
    decide +kernel
  have hroot : sampleDisk.resolve sampleConfig.root = .found ["p"] .directory := by decide +kernel
  have hsame : sampleDisk.SameNodes reversedDisk := fun _ => rfl
  obtain ⟨-, hfree⟩ :=
    generate_order_free rfl (by decide +kernel) hroot (by decide +kernel) hsame
  obtain ⟨-, hperm, hdisk, -⟩ := hfree _ _ hok hok'
  exact ⟨hok', hwritten ▸ hperm, hdisk⟩

end PackageIndex
