import PackageIndex.Proofs.Indexes

/-!
# Pruning

To leave names out of a run is to take them off the disk before it: everything below the root on
whose way some name matches a glob, except for indexes, which no run visits anyway (`Disk.prune`).
Each directory that is reached has the same eligible children on both disks
(`Disk.eligible_prune`), so that by induction along the walk the outlines are the same
(`Disk.outline_prune`).  As long as no link lies below the root, nothing else of the disk is looked
at.

`generate_prune` concludes that both runs do the same, also when they fail.  The path of the root
may lead through something below the root that is pruned, and back again; then it leads nowhere
afterwards (`generate_prune_detourDisk`).
-/

namespace PackageIndex

/-- The configuration with other globs for what is left out. -/
def Config.withExclude (c : Config) (exclude : List String) : Config := { c with exclude }

/-- What stands at a place is a symbolic link. -/
def Node.isLink : Node → Bool
  | .link _ => true
  | _ => false

namespace Disk

/-- Some name on the way from a directory to a place below it is dropped.  Indexes are kept. -/
def isDropped (root : Location) (drop : String → Bool) (place : Location) : Bool :=
  root.isPrefixOf place && (place.drop root.length).any fun name => drop name && name != indexName

/-- The disk without what is dropped below a directory, and without all that lies below that. -/
def prune (d : Disk) (root : Location) (drop : String → Bool) : Disk :=
  { d with entries := d.entries.filter (! isDropped root drop ·.1) }

/-- No symbolic link lies below a directory. -/
def LinkFree (d : Disk) (root : Location) : Prop :=
  ∀ directory name target, root <+: directory → d.node? (directory ++ [name]) ≠ some (.link target)

/-- Whatever stands somewhere on the first disk stands there on the second. -/
def IsPartOf (c d : Disk) : Prop :=
  ∀ place node, c.node? place = some node → d.node? place = some node

variable {c d : Disk} {config : Config} {exclude : List String} {root place : Location}
  {drop : String → Bool} {r s : Site} {e : Entry} {name : String}

/-- No link lies below a directory if none is among the entries there. -/
lemma linkFree_iff : d.LinkFree root ↔ ∀ entry ∈ d.entries, entry.1 ≠ [] →
    root <+: entry.1.dropLast → (d.node? entry.1).all (! ·.isLink) := by
  constructor
  · rintro h ⟨place, node⟩ - hne hroot
    obtain ⟨directory, name, rfl⟩ := (List.eq_nil_or_concat' place).resolve_left hne
    dsimp only at hroot ⊢
    rw [List.dropLast_concat] at hroot
    have hlink := fun target => h directory name target hroot
    rcases hnode : d.node? (directory ++ [name]) with _ | _ | _ | target | _ <;>
      simp_all [Node.isLink]
  · intro h directory name target hroot hlink
    obtain ⟨node, hmem⟩ :=
      (node?_ne_none_iff (d := d) (show directory ++ [name] ≠ [] by simp)).1 (by simp [hlink])
    have hnone := h _ hmem (by simp) (by simpa using hroot)
    simp [hlink, Node.isLink] at hnone

instance (d : Disk) (root : Location) : Decidable (d.LinkFree root) :=
  decidable_of_iff _ linkFree_iff.symm

/-- Where there are no links, none betrays an index. -/
lemma LinkFree.linksAvoidIndexes (h : d.LinkFree root) : d.LinksAvoidIndexes root where
  name_ne directory name target hroot hlink := absurd hlink (h directory name target hroot)
  target_ne directory name target _ hroot hlink := absurd hlink (h directory name target hroot)

/-! ## Paths on parts of disks -/

namespace IsPartOf

/-- A stride on a part of a disk is that on the whole disk, unless it arrives at nothing. -/
lemma stride_eq_or (h : c.IsPartOf d) (steps : List String) : ∀ directory : Location,
    d.stride directory steps = c.stride directory steps ∨
      ∃ outcome, c.stride directory steps = .arrived outcome ∧
        ∀ place node, outcome ≠ .found place node := by
  induction steps with
  | nil => exact fun _ => Or.inl rfl
  | cons step steps ih =>
    intro directory
    by_cases hs : IsName step
    · rw [stride_cons hs, stride_cons hs]
      cases hnode : c.node? (directory ++ [step]) with
      | none =>
        refine Or.inr ⟨_, rfl, fun place node => ?_⟩
        split_ifs <;> simp
      | some node =>
        rw [h _ _ hnode]
        cases node with
        | directory => exact ih _
        | file content => exact Or.inl rfl
        | link target => exact Or.inl rfl
        | pipe => exact Or.inl rfl
    · rw [stride_cons_of_not_isName hs, stride_cons_of_not_isName hs]
      exact ih _

/-- What a path leads to on a part of a disk it leads to on the whole disk. -/
lemma resolve_of_found (h : c.IsPartOf d) {p : Path} {node : Node}
    (hc : c.resolve p = .found place node) : d.resolve p = .found place node := by
  suffices hfollow : ∀ links directory steps, c.follow links directory steps = .found place node →
      d.follow links directory steps = .found place node from hfollow _ _ _ hc
  intro links directory steps hfound
  fun_induction c.follow links directory steps with
  | case1 links directory steps outcome hs =>
    subst hfound
    rcases h.stride_eq_or steps directory with heq | ⟨outcome, hc, hne⟩
    · exact follow_of_arrived (heq.trans hs)
    · exact absurd (Stride.arrived.inj (hc.symm.trans hs)) (hne _ _)
  | case2 => cases hfound
  | case3 => cases hfound
  | case4 directory steps origin target rest hs links ht start ih =>
    rcases h.stride_eq_or steps directory with heq | ⟨outcome, hc, -⟩
    · rw [follow_succ_of_link (heq.trans hs), if_neg ht]
      exact ih hfound
    · rw [hs] at hc
      cases hc

/-- The names on a part of a disk are proper if those on the disk are. -/
lemma hasNames (h : c.IsPartOf d) (hn : d.HasNames) : c.HasNames := by
  intro directory name hnode
  obtain ⟨node, hnode⟩ := Option.ne_none_iff_exists'.1 hnode
  exact hn directory name (by simp [h _ _ hnode])

/-- A part of a disk has no links where the disk has none. -/
lemma linkFree (h : c.IsPartOf d) (hd : d.LinkFree root) : c.LinkFree root :=
  fun directory name target hroot hlink => hd directory name target hroot (h _ _ hlink)

end IsPartOf

/-! ## What is left -/

/-- The directory below which names are dropped stays itself. -/
lemma isDropped_self (root : Location) (drop : String → Bool) :
    isDropped root drop root = false := by
  simp [isDropped]

/-- A child is dropped with its directory or by its own name. -/
lemma isDropped_child (h : root <+: place) (drop : String → Bool) (name : String) :
    isDropped root drop (place ++ [name]) =
      (isDropped root drop place || (drop name && name != indexName)) := by
  have hplace : root.isPrefixOf place = true := List.isPrefixOf_iff_prefix.2 h
  have hchild : root.isPrefixOf (place ++ [name]) = true :=
    List.isPrefixOf_iff_prefix.2 (h.trans (List.prefix_append _ _))
  obtain ⟨rest, rfl⟩ := h
  rw [isDropped, isDropped, hplace, hchild, List.append_assoc, List.drop_left, List.drop_left]
  simp

/-- To look something up among the entries whose keys are kept. -/
lemma lookup_filter {α β : Type*} [BEq α] [LawfulBEq α] (keep : α → Bool) (entries : List (α × β))
    (a : α) : (entries.filter fun entry => keep entry.1).lookup a =
      if keep a then entries.lookup a else none := by
  induction entries with
  | nil => simp
  | cons entry entries ih =>
    obtain ⟨key, value⟩ := entry
    rw [List.filter_cons]
    by_cases heq : a = key
    · subst heq
      cases hkeep : keep a <;> simp [hkeep, ih]
    · have hne : (a == key) = false := by simpa using heq
      cases keep key <;> simp [List.lookup_cons, hne, ih]

/-- Pruning takes away what is dropped and nothing else. -/
theorem node?_prune (d : Disk) (root : Location) (drop : String → Bool) (place : Location) :
    (d.prune root drop).node? place =
      if isDropped root drop place then none else d.node? place := by
  by_cases hnil : place = []
  · subst hnil
    simp [isDropped]
  · have hlookup := lookup_filter (fun place => ! isDropped root drop place) d.entries place
    rw [node?, node?, if_neg hnil, if_neg hnil]
    refine hlookup.trans ?_
    cases isDropped root drop place <;> rfl

/-- What is not dropped stays as it is. -/
lemma node?_prune_of_not_dropped (h : isDropped root drop place = false) :
    (d.prune root drop).node? place = d.node? place := by
  rw [node?_prune, h, if_neg Bool.false_ne_true]

/-- A pruned disk is a part of the disk. -/
lemma isPartOf_prune (d : Disk) (root : Location) (drop : String → Bool) :
    (d.prune root drop).IsPartOf d := by
  intro place node h
  rw [node?_prune] at h
  split_ifs at h
  exact h

/-! ## Walks -/

/-- What is not a link is the same entry of both disks. -/
lemma entry?_congr {p : Path} (h : c.node? (place ++ [name]) = d.node? (place ++ [name]))
    (hlink : ∀ target, d.node? (place ++ [name]) ≠ some (.link target)) :
    c.entry? p place name = d.entry? p place name := by
  unfold entry?
  rw [h]
  rcases hnode : d.node? (place ++ [name]) with _ | _ | _ | target | _
  all_goals first | rfl | exact absurd hnode (hlink target)

/-- The children of a directory that a run visits, in terms of any names among which they are. -/
lemma eligible_eq_of_keep (d : Disk) (exclude : List String) (s : Site) (keep : String → Bool)
    (h : ∀ e ∈ d.eligible exclude s, keep e.name = true)
    (hexclude : ∀ name, keep name = true → Glob.isExcluded exclude name = false) :
    d.eligible exclude s = ((d.childNames s.place).filter keep).filterMap fun name =>
      (d.entry? s.path s.place name).filter Entry.isEligible := by
  unfold eligible at h ⊢
  rw [List.filterMap_filter, List.filterMap_filter]
  refine List.filterMap_congr fun name hname => ?_
  by_cases hkeep : keep name = true
  · simp [hkeep, hexclude name hkeep]
  · rw [if_neg hkeep]
    split_ifs with hex
    · cases he : (d.entry? s.path s.place name).filter Entry.isEligible with
      | none => rfl
      | some e =>
        have hmem := h e (List.mem_filterMap.2 ⟨name, List.mem_filter.2 ⟨hname, hex⟩, he⟩)
        have hsame := name_of_entry? (Option.filter_eq_some_iff.1 he).1
        rw [hsame] at hmem
        exact absurd hmem hkeep
    · rfl

section Reached

variable (hlink : d.LinkFree root) (hroot : root <+: s.place)
  (hs : isDropped root (Glob.isExcluded exclude) s.place = false)

include hroot hs

/-- The entries of a directory that is not dropped stay if they are not left out. -/
lemma node?_child_prune (hname : (Glob.isExcluded exclude name && name != indexName) = false) :
    (d.prune root (Glob.isExcluded exclude)).node? (s.place ++ [name]) =
      d.node? (s.place ++ [name]) :=
  node?_prune_of_not_dropped (by rw [isDropped_child hroot, hs, hname, Bool.or_false])

include hlink

/-- A directory that is not dropped has the same eligible children as with the globs. -/
theorem eligible_prune :
    (d.prune root (Glob.isExcluded exclude)).eligible [] s = d.eligible exclude s := by
  -- only names of this kind lead to a child that is visited, on either disk
  let keep (name : String) : Bool := ! Glob.isExcluded exclude name && name != indexName
  have hkeep {name : String} (h : keep name = true) : Glob.isExcluded exclude name = false := by
    simp only [keep, Bool.and_eq_true, Bool.not_eq_true'] at h
    exact h.1
  have hnode {name : String} (h : keep name = true) :
      (d.prune root (Glob.isExcluded exclude)).node? (s.place ++ [name]) =
        d.node? (s.place ++ [name]) :=
    node?_child_prune hroot hs (by rw [hkeep h, Bool.false_and])
  rw [eligible_eq_of_keep d exclude s keep, eligible_eq_of_keep _ [] s keep]
  · have hnames : ((d.prune root (Glob.isExcluded exclude)).childNames s.place).filter keep =
        (d.childNames s.place).filter keep :=
      filter_childNames_congr rfl fun name h => by rw [hnode h]
    rw [hnames]
    refine List.filterMap_congr fun name hname => ?_
    rw [entry?_congr (hnode (List.mem_filter.1 hname).2) fun target =>
      hlink s.place name target hroot]
  · intro e he
    obtain ⟨hlisted, -, -, heligible⟩ := mem_eligible.1 he
    rw [mem_childNames, node?_prune, isDropped_child hroot, hs, Bool.false_or] at hlisted
    simp only [Entry.isEligible, Bool.and_eq_true] at heligible
    simp_all [keep]
  · exact fun _ _ => rfl
  · intro e he
    obtain ⟨-, hex, -, heligible⟩ := mem_eligible.1 he
    simp only [Entry.isEligible, Bool.and_eq_true] at heligible
    simp only [keep, hex, heligible.2, Bool.not_false, Bool.and_self]
  · exact fun _ => hkeep

end Reached

/-- Nothing that is reached is dropped. -/
lemma Reaches.not_dropped (hs : d.Reaches exclude r s) :
    r.place <+: s.place ∧ isDropped r.place (Glob.isExcluded exclude) s.place = false := by
  induction hs with
  | refl => exact ⟨List.prefix_rfl, isDropped_self _ _⟩
  | step _ he _ ih =>
    obtain ⟨-, hex, -, -⟩ := mem_eligible.1 he
    refine ⟨ih.1.trans (List.prefix_append _ _), ?_⟩
    rw [Site.child, isDropped_child ih.1, ih.2, hex, Bool.false_and, Bool.or_false]

/-- A directory that is reached has the same eligible children on the pruned disk, without globs. -/
lemma Reaches.eligible_prune (hlink : d.LinkFree r.place) (hs : d.Reaches exclude r s) :
    (d.prune r.place (Glob.isExcluded exclude)).eligible [] s = d.eligible exclude s :=
  Disk.eligible_prune hlink hs.not_dropped.1 hs.not_dropped.2

/-- A directory that is reached is reached on the pruned disk, without globs. -/
lemma Reaches.prune (hlink : d.LinkFree r.place) (hs : d.Reaches exclude r s) :
    (d.prune r.place (Glob.isExcluded exclude)).Reaches [] r s := by
  induction hs with
  | refl => exact .refl
  | step hs he hd ih => exact ih.step (by rwa [hs.eligible_prune hlink]) hd

/-- Every directory that is reached has the same outline. -/
theorem Reaches.outline_prune (hlink : d.LinkFree r.place) (hs : d.Reaches exclude r s) :
    (d.prune r.place (Glob.isExcluded exclude)).outline [] s = d.outline exclude s := by
  induction s using induction_eligible d exclude with
  | step s ih =>
    rw [outline_eq, outline_eq, hs.eligible_prune hlink]
    congr 1
    refine List.map_congr_left fun e he => ?_
    by_cases hd : e.isDirectory = true
    · rw [if_pos hd, if_pos hd, ih e he hd (hs.step he hd)]
    · rw [if_neg hd, if_neg hd]

/-- The place of the index of a directory that is reached is not touched. -/
lemma Reaches.node?_index_prune (hs : d.Reaches exclude r s) :
    (d.prune r.place (Glob.isExcluded exclude)).node? (s.place ++ [indexName]) =
      d.node? (s.place ++ [indexName]) :=
  node?_child_prune hs.not_dropped.1 hs.not_dropped.2 (by simp)

end Disk

/-! ## Plans -/

/-- The statements of a node depend on the names that the sources below it expose. -/
lemma Outline.statements_congr {names names' : Path → List String} {o : Outline}
    (h : ∀ s, .source s ∈ o.nodes → names s.path = names' s.path) :
    o.statements names = o.statements names' := by
  induction o with
  | source s => rw [statements_source, statements_source, h s (by simp)]
  | package s children ih =>
    rw [statements_package, statements_package]
    refine List.flatMap_congr fun c hc => ?_
    rw [ih c hc fun t ht => h t (mem_nodes.2 (Or.inl (mem_descendants_package.2 ⟨c, hc, ht⟩)))]

namespace Disk

variable {c d : Disk} {config : Config} {place : Location} {s : Site} {o : Outline}

section Nodes

variable (hn : d.HasNames) (hr : d.resolve config.root = .found place .directory)
  (hlink : d.LinkFree place) (hc : c = d.prune place (Glob.isExcluded config.exclude))
  (hroot : c.resolve config.root = .found place .directory)

include hn hr hlink hc hroot

/-- The path of a source that is reached leads to the same file. -/
lemma resolve_source_prune
    (hs : .source s ∈ (d.outline config.exclude ⟨config.root, place⟩).nodes) :
    c.resolve s.path = d.resolve s.path := by
  rcases mem_nodes_outline_iff.1 hs with ⟨t, -, heq⟩ | ⟨t, e, ht, he, -, heq⟩
  · have hsource : (d.outline config.exclude t).isSource = true := heq ▸ rfl
    rw [isSource_outline] at hsource
    cases hsource
  · obtain rfl : s = t.child e.name := by simpa using heq
    obtain ⟨hlisted, hex, -, -⟩ := mem_eligible.1 he
    rw [mem_childNames] at hlisted
    obtain ⟨hbelow, hkept⟩ := ht.not_dropped
    have hnode : c.node? (t.place ++ [e.name]) = d.node? (t.place ++ [e.name]) := by
      rw [hc]
      exact node?_child_prune hbelow hkept (by rw [hex, Bool.false_and])
    have hname : IsName e.name := hn t.place e.name hlisted
    have hreached := ht.prune (r := ⟨config.root, place⟩) hlink
    rw [← hc] at hreached
    have hnames : c.HasNames := hc ▸ (isPartOf_prune d place _).hasNames hn
    rw [Site.child, resolve_child (ht.resolve hn hr).2 hname fun target =>
        hlink t.place e.name target hbelow,
      resolve_child (hreached.resolve hnames hroot).2 hname fun target =>
        hnode ▸ hlink t.place e.name target hbelow, hnode]

/-- A source that is reached is parsed with the same result. -/
lemma parse_source_prune (hs : .source s ∈ (d.outline config.exclude ⟨config.root, place⟩).nodes) :
    c.parse s.path config.version = d.parse s.path config.version :=
  parse_eq_of_resolve (resolve_source_prune hn hr hlink hc hroot hs)

/-- A source that is reached exposes the same names. -/
lemma exposed_source_prune
    (hs : .source s ∈ (d.outline config.exclude ⟨config.root, place⟩).nodes) :
    c.exposed (config.withExclude []) s.path = d.exposed config s.path := by
  have hparse := parse_source_prune hn hr hlink hc hroot hs
  unfold exposed
  rw [show (config.withExclude []).version = config.version from rfl, hparse]
  rfl

/-- The work on a node fails for the same reason. -/
lemma failure?_prune (ho : o ∈ (d.outline config.exclude ⟨config.root, place⟩).nodes) :
    c.failure? (config.withExclude []) o = d.failure? config o := by
  cases o with
  | source s =>
    have hparse := parse_source_prune hn hr hlink hc hroot ho
    simp only [failure?]
    rw [show (config.withExclude []).version = config.version from rfl, hparse]
  | package s children =>
    have hindex : c.node? (s.place ++ [indexName]) = d.node? (s.place ++ [indexName]) := by
      rcases mem_nodes_outline_iff.1 ho with ⟨t, ht, heq⟩ | ⟨t, e, -, -, -, heq⟩
      · obtain rfl : s = t := by simpa using congrArg Outline.site heq
        rw [hc]
        exact ht.node?_index_prune
      · cases heq
    simp only [failure?, Outline.indexPlace, Outline.site_package, hindex]
    congr

/-- The same is told of the work on a node. -/
lemma notice_prune (ho : o ∈ (d.outline config.exclude ⟨config.root, place⟩).nodes) :
    c.notice (config.withExclude []) o = d.notice config o := by
  cases o with
  | source s =>
    have hexposed := exposed_source_prune hn hr hlink hc hroot ho
    simp only [notice]
    rw [hexposed]
  | package s children => rfl

/-- A directory that is reached aggregates the same statements. -/
lemma aggregated_prune (hs : d.Reaches config.exclude ⟨config.root, place⟩ s) :
    c.aggregated (config.withExclude []) s = d.aggregated config s := by
  have houtline : c.outline [] s = d.outline config.exclude s := by
    rw [hc]
    exact hs.outline_prune hlink
  unfold aggregated
  rw [show (config.withExclude []).exclude = [] from rfl, houtline]
  refine Outline.statements_congr fun t ht => exposed_source_prune hn hr hlink hc hroot ?_
  exact Outline.mem_nodes_trans (mem_nodes_outline_iff.2 (Or.inl ⟨s, hs, rfl⟩)) ht

/-- The index of a settled directory is read with the same content. -/
lemma read_index_prune {os : List Outline}
    (hs : d.Reaches config.exclude ⟨config.root, place⟩ s) (hsource : d.HasSource config.exclude s)
    (hos : Outline.BottomUp os) (ho : d.outline config.exclude s ∈ os)
    (hf : d.failure? config (d.outline config.exclude s) = none) :
    ∃ content,
      (os.foldl (d.settle config) (Progress.start d)).disk.read (s.path.child indexName) =
          .ok content ∧
        (os.foldl (c.settle (config.withExclude [])) (Progress.start c)).disk.read
          (s.path.child indexName) = .ok content := by
  obtain ⟨hbelow, hrs⟩ := hs.resolve hn hr
  refine ⟨_, read_index_settled (EqOffIndexes.refl d) hlink.linksAvoidIndexes hbelow hrs hsource hos
    ho hf, ?_⟩
  have hpart : c.IsPartOf d := hc ▸ isPartOf_prune d place _
  have houtline : c.outline [] s = d.outline config.exclude s := hc ▸ hs.outline_prune hlink
  have hreached : c.Reaches [] ⟨config.root, place⟩ s := hc ▸ hs.prune hlink
  have hindex : c.node? (s.place ++ [indexName]) = d.node? (s.place ++ [indexName]) :=
    hc ▸ hs.node?_index_prune
  have hsource' : c.HasSource [] s :=
    contributes_outline_iff.1 (houtline ▸ contributes_outline_iff.2 hsource)
  have hf' : c.failure? (config.withExclude []) (c.outline [] s) = none := by
    rw [houtline, failure?_prune hn hr hlink hc hroot
      (mem_nodes_outline_iff.2 (Or.inl ⟨s, hs, rfl⟩)), hf]
  rw [← hindex, ← aggregated_prune hn hr hlink hc hroot hs]
  exact read_index_settled (EqOffIndexes.refl c) (hpart.linkFree hlink).linksAvoidIndexes hbelow
    (hreached.resolve (hpart.hasNames hn) hroot).2 hsource' hos (houtline ▸ ho) hf'

end Nodes

end Disk

/-! ## Runs -/

variable {c d : Disk} {config : Config} {place : Location}

/-- The run with globs and the one without them on the pruned disk settle the same nodes. -/
lemma exists_settled_prune (hn : d.HasNames)
    (hr : d.resolve config.root = .found place .directory) (hlink : d.LinkFree place)
    (hc : c = d.prune place (Glob.isExcluded config.exclude))
    (hroot : c.resolve config.root = .found place .directory) :
    ∃ os outcome, os <+: (d.outline config.exclude ⟨config.root, place⟩).plan ∧
      (∀ o ∈ os, d.failure? config o = none) ∧
      generate config d = (outcome, os.foldl (d.settle config) (Progress.start d)) ∧
      generate (config.withExclude []) c =
        (outcome, os.foldl (c.settle (config.withExclude [])) (Progress.start c)) := by
  have hpart : c.IsPartOf d := hc ▸ Disk.isPartOf_prune d place _
  have houtline : c.outline [] ⟨config.root, place⟩ =
      d.outline config.exclude ⟨config.root, place⟩ := by
    rw [hc]
    exact Disk.Reaches.outline_prune (r := ⟨config.root, place⟩) hlink .refl
  obtain ⟨os, outcome, hos, hnone, hrun⟩ := exists_settled_of_same d config ⟨config.root, place⟩
  refine ⟨os, outcome, hos, hnone, ?_, ?_⟩
  · exact hrun hn hr hlink.linksAvoidIndexes rfl (fun _ _ => rfl) rfl
  · refine hrun (hpart.hasNames hn) hroot (hpart.linkFree hlink).linksAvoidIndexes houtline
      (fun p hp => ?_) (Disk.aggregated_prune hn hr hlink hc hroot .refl)
    exact Disk.failure?_prune hn hr hlink hc hroot (Outline.mem_nodes_of_mem_plan hp)

/-- A run does the same as one without globs on the disk from which everything was taken that they
leave out, if the path of the root still leads somewhere there: the outcome is the same, a failure
included, the same is told, and the same indexes are written, with the same text in each. -/
theorem generate_prune (hn : d.HasNames) (hr : d.resolve config.root = .found place .directory)
    (hlink : d.LinkFree place)
    (hexists : (d.prune place (Glob.isExcluded config.exclude)).pathExists config.root = true) :
    let run := generate config d
    let other := generate (config.withExclude []) (d.prune place (Glob.isExcluded config.exclude))
    other.1 = run.1 ∧ other.2.notices = run.2.notices ∧ other.2.written = run.2.written ∧
      ∀ p ∈ run.2.written, ∃ content,
        run.2.disk.read p = .ok content ∧ other.2.disk.read p = .ok content := by
  obtain ⟨c, hc⟩ : ∃ c, c = d.prune place (Glob.isExcluded config.exclude) := ⟨_, rfl⟩
  rw [← hc] at hexists ⊢
  intro run other
  have hpart : c.IsPartOf d := hc ▸ Disk.isPartOf_prune d place _
  have hroot : c.resolve config.root = .found place .directory := by
    obtain ⟨there, node, hfound⟩ := Disk.pathExists_iff.1 hexists
    rw [hfound, ← hr, hpart.resolve_of_found hfound]
  obtain ⟨os, outcome, hos, hnone, hrun, hother⟩ := exists_settled_prune hn hr hlink hc hroot
  have hnodes {o : Outline} (ho : o ∈ os) := Outline.mem_nodes_of_mem_plan (hos.subset ho)
  rw [show run = _ from hrun, show other = _ from hother]
  refine ⟨rfl, ?_, ?_, fun p hp => ?_⟩
  · rw [Disk.notices_foldl_settle, Disk.notices_foldl_settle,
      List.map_congr_left fun o ho => Disk.notice_prune hn hr hlink hc hroot (hnodes ho)]
    rfl
  · rw [Disk.written_foldl_settle, Disk.written_foldl_settle]
    rfl
  · rw [Disk.written_foldl_settle] at hp
    obtain ⟨s, hs, hsource, ho, rfl⟩ := (mem_written_iff hos).1 hp
    exact Disk.read_index_prune hn hr hlink hc hroot hs hsource
      ((Disk.placed_outline d config.exclude _).bottomUp_plan.sublist hos.sublist) ho (hnone _ ho)

/-- A package with a source and a package inside. -/
def detourDisk : Disk where
  entries := [(["p"], .directory), (["p", "a.py"], .file "x = 1\n".toUTF8),
    (["p", "q"], .directory), (["p", "q", "b.py"], .file "y = 2\n".toUTF8)]
  mentions := [["p"], ["p", "a.py"], ["p", "q"], ["p", "q", "b.py"]]

example : (detourDisk.prune ["p"] (Glob.isExcluded ["q"])).entries.map Prod.fst =
    [["p"], ["p", "a.py"]] := by
  decide +kernel

/-- A run that leaves the package inside out. -/
def detourConfig : Config := { sampleConfig with exclude := ["q"] }

/-- Without the package inside there is nothing to leave out. -/
theorem generate_prune_detourConfig :
    let pruned := detourDisk.prune ["p"] (Glob.isExcluded detourConfig.exclude)
    pruned.node? ["p", "q", "b.py"] = none ∧
      (generate (detourConfig.withExclude []) pruned).1 =
        .ok [.module "a", .member "a" "x"] ∧
      (generate (detourConfig.withExclude []) pruned).2.written = [⟨"", ["p", "__init__.py"]⟩] := by
  have hroot : detourDisk.resolve detourConfig.root = .found ["p"] .directory := by decide +kernel
  have hok : (generate detourConfig detourDisk).1 = .ok [.module "a", .member "a" "x"] := by
    decide +kernel
  have hwritten : (generate detourConfig detourDisk).2.written = [⟨"", ["p", "__init__.py"]⟩] := by
    decide +kernel
  obtain ⟨hsame, -, hsameWritten, -⟩ :=
    generate_prune (by decide +kernel) hroot (by decide +kernel) (by decide +kernel)
  exact ⟨by decide +kernel, hsame.trans hok, hsameWritten.trans hwritten⟩

/-- The path of the same root may lead through the package that is left out.  A run from there
returns, but from the pruned disk it does not start. -/
theorem generate_prune_detourDisk :
    let config := detourConfig.withRoot ⟨"", ["p", "q", ".."]⟩
    detourDisk.HasNames ∧ detourDisk.resolve config.root = .found ["p"] .directory ∧
      detourDisk.LinkFree ["p"] ∧
      (generate config detourDisk).1 = .ok [.module "a", .member "a" "x"] ∧
      (generate (config.withExclude [])
        (detourDisk.prune ["p"] (Glob.isExcluded config.exclude))).1 =
          .error (.missing config.root) := by
  intro config
  exact ⟨by decide +kernel, by decide +kernel, by decide +kernel, by decide +kernel,
    by decide +kernel⟩

end PackageIndex
