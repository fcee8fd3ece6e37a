import PackageIndex.Proofs.Simulation

/-!
# Flattened package trees

A run aggregates statements from the bottom up, and what a deep node exposes is rewritten at every
level above it.  Seen from the root alone the result is flat: `Outline.trails` walks all nodes below
a package in pre-order, each with the nodes that lead to it, and `emitted` is what the last node of
a trail adds to the statements of the package, which depends on the two ends of the trail only.

`Outline.statements_eq` shows that the aggregated statements are the flat ones, and
`generate_eq_flattening` says so of the result of a run.
-/

namespace PackageIndex

namespace Outline

mutual

/-- The ways down from a node to everything below it, parents before children and in the order in
which directories are listed. -/
def trails : Outline → List (List Outline)
  | .source _ => []
  | .package _ children => trailsThrough children

/-- The ways down through some children: to each child, and from there on. -/
def trailsThrough : List Outline → List (List Outline)
  | [] => []
  | c :: cs => [c] :: c.trails.map (c :: ·) ++ trailsThrough cs

end

/-- The names that a node exposes by itself, given the names that sources expose. -/
def exposures (names : Path → List String) : Outline → List String
  | .source s => names s.path
  | .package _ _ => []

/-- A trail counts if its last node contributes. -/
def isKept (trail : List Outline) : Bool := trail.getLast?.any contributes

/-- What the last node of a trail adds to the index where the trail starts: the node itself, and the
names that it exposes, all of them out of the first module on the trail. -/
def emitted (names : Path → List String) : List Outline → List Statement
  | [] => []
  | first :: rest =>
    let last := rest.getLastD first
    (if rest.isEmpty then .module first.moduleName
      else .member first.moduleName last.moduleName) ::
      (last.exposures names).map (.member first.moduleName)

/-- The statements of a package, listed trail by trail. -/
def flattening (names : Path → List String) (o : Outline) : List Statement :=
  (o.trails.filter isKept).flatMap (emitted names)

variable {names : Path → List String}

/-- Only sources expose names by themselves. -/
lemma exposures_of_not_isSource {o : Outline} (h : o.isSource = false) :
    o.exposures names = [] := by
  cases o with
  | source s => simp [isSource] at h
  | package s children => rfl

/-- No trail starts from a source. -/
@[simp] lemma trails_source (s : Site) : (source s).trails = [] := by
  rw [trails]

/-- A trail from a package ends at a child or goes on below it. -/
lemma trails_package (s : Site) (children : List Outline) : (package s children).trails =
    children.flatMap fun c => [c] :: c.trails.map (c :: ·) := by
  rw [trails]
  induction children with
  | nil => rfl
  | cons c cs ih => rw [trailsThrough, ih, List.flatMap_cons]

/-- A trail ends below the node that it starts from. -/
lemma exists_getLast?_of_mem_trails {o : Outline} {t : List Outline} (ht : t ∈ o.trails) :
    ∃ c ∈ o.descendants, t.getLast? = some c := by
  induction o generalizing t with
  | source s => simp at ht
  | package s children ih =>
    rw [trails_package, List.mem_flatMap] at ht
    obtain ⟨c, hc, ht⟩ := ht
    rcases List.mem_cons.1 ht with rfl | ht
    · exact ⟨c, mem_descendants_package.2 ⟨c, hc, by simp⟩, rfl⟩
    · obtain ⟨rest, hrest, rfl⟩ := List.mem_map.1 ht
      obtain ⟨b, hb, hlast⟩ := ih c hc hrest
      exact ⟨b, mem_descendants_package.2 ⟨c, hc, mem_nodes.2 (Or.inl hb)⟩,
        by rw [List.getLast?_cons, hlast, Option.getD_some]⟩

/-- A trail goes somewhere. -/
lemma ne_nil_of_mem_trails {o : Outline} {t : List Outline} (ht : t ∈ o.trails) : t ≠ [] := by
  obtain ⟨c, -, hlast⟩ := exists_getLast?_of_mem_trails ht
  rintro rfl
  simp at hlast

/-- Nothing is kept below a node that does not contribute. -/
lemma filter_isKept_eq_nil {o : Outline} (ho : ¬ o.contributes = true) :
    o.trails.filter isKept = [] := by
  rw [List.filter_eq_nil_iff]
  intro t ht hkept
  obtain ⟨c, hc, hlast⟩ := exists_getLast?_of_mem_trails ht
  rw [isKept, hlast, Option.any_some] at hkept
  exact ho (contributes_of_mem_nodes (mem_nodes.2 (Or.inl hc)) hkept)

/-- From one node further up, everything that a trail emits comes out of that node. -/
lemma emitted_cons (c : Outline) {t : List Outline} (ht : t ≠ []) :
    emitted names (c :: t) = (emitted names t).map fun s => .member c.moduleName s.bound := by
  obtain ⟨first, rest, rfl⟩ := List.exists_cons_of_ne_nil ht
  have hbound : (if rest.isEmpty then Statement.module first.moduleName
      else .member first.moduleName (rest.getLastD first).moduleName).bound =
      (rest.getLastD first).moduleName := by
    cases rest <;> simp [Statement.bound]
  simp only [emitted, List.isEmpty_cons, List.getLastD_cons, List.map_cons, hbound, List.map_map]
  rfl

/-- A trail counts just as much from one node further up. -/
lemma filter_isKept_map_cons (c : Outline) :
    (c.trails.map (c :: ·)).filter isKept = (c.trails.filter isKept).map (c :: ·) := by
  rw [List.filter_map]
  refine congrArg _ (List.filter_congr fun t ht => ?_)
  obtain ⟨b, -, hlast⟩ := exists_getLast?_of_mem_trails ht
  rw [Function.comp_apply, isKept, isKept, List.getLast?_cons, hlast, Option.getD_some]

/-- What the trails through a child emit: the child itself, and all that it exposes. -/
lemma flatMap_emitted_child {c : Outline} (hc : c.contributes = true) :
    (([c] :: c.trails.map (c :: ·)).filter isKept).flatMap (emitted names) =
      statementsOfChild c.moduleName ((c.exposures names).map .module ++ c.flattening names) := by
  have hbelow : ((c.trails.filter isKept).map (c :: ·)).flatMap (emitted names) =
      (c.flattening names).map fun s => .member c.moduleName s.bound := by
    rw [List.flatMap_map, flattening, List.map_flatMap]
    refine List.flatMap_congr fun t ht => emitted_cons c ?_
    exact ne_nil_of_mem_trails (List.mem_of_mem_filter ht)
  rw [List.filter_cons_of_pos (by simpa [isKept] using hc), filter_isKept_map_cons,
    List.flatMap_cons, hbelow, statementsOfChild, List.map_append, List.map_map]
  rfl

/-- The aggregated statements of a node are what it exposes itself and the flat ones. -/
theorem statements_eq (o : Outline) :
    o.statements names = (o.exposures names).map .module ++ o.flattening names := by
  induction o with
  | source s => simp [exposures, flattening]
  | package s children ih =>
    rw [statements_package, flattening, trails_package, List.filter_flatMap, List.flatMap_assoc,
      exposures, List.map_nil, List.nil_append]
    refine List.flatMap_congr fun c hc => ?_
    by_cases hcontributes : c.contributes = true
    · rw [if_pos hcontributes, ih c hc, flatMap_emitted_child hcontributes]
    · have hnone : ([c] :: c.trails.map (c :: ·)).filter isKept = [] := by
        rw [List.filter_cons_of_neg (by simpa [isKept] using hcontributes),
          filter_isKept_map_cons, filter_isKept_eq_nil hcontributes, List.map_nil]
      rw [if_neg hcontributes, hnone, List.flatMap_nil]

end Outline

variable {d : Disk} {config : Config} {place : Location} {statements : List Statement}

/-- The statements that a run returns are the flat ones, with the names that the sources expose on
the disk before the run, where every source holds a tree. -/
theorem generate_eq_flattening (hn : d.HasNames)
    (hr : d.resolve config.root = .found place .directory) (hl : d.LinksAvoidIndexes place)
    (hok : (generate config d).1 = .ok statements) :
    let o := d.outline config.exclude ⟨config.root, place⟩
    statements = o.flattening (d.exposed config) ∧
      ∀ s, .source s ∈ o.nodes → ∃ tree, d.parse s.path config.version = .ok tree ∧
        d.exposed config s.path = tree.exposedNames config.respectListing := by
  intro o
  obtain ⟨hnone, rfl, -⟩ := generate_of_ok hn hr hl (Disk.EqOffIndexes.refl d) hok
  refine ⟨?_, fun s hs => ?_⟩
  · rw [Outline.statements_eq, Outline.exposures_of_not_isSource (Disk.isSource_outline _ _ _),
      List.map_nil, List.nil_append]
  · -- a source makes the root contribute, so that it is part of the plan itself
    have ho : o.contributes = true := Outline.contributes_iff.2 ⟨_, hs, rfl⟩
    have hplan : o.plan = o.nodes := if_pos ho
    have hparse := hnone (.source s) (hplan ▸ hs)
    rw [Disk.failure?] at hparse
    cases htree : d.parse s.path config.version with
    | error f => simp [htree] at hparse
    | ok tree => exact ⟨tree, rfl, by rw [Disk.exposed, htree]⟩

/-- The small disk exposes a source and its name, a package with a source, and a link. -/
theorem generate_eq_flattening_sampleDisk :
    let o := sampleDisk.outline sampleConfig.exclude ⟨sampleConfig.root, ["p"]⟩
    let statements := [.module "a", .member "a" "x", .module "q", .member "q" "b", .module "l"]
    (generate sampleConfig sampleDisk).1 = .ok statements ∧
      statements = o.flattening (sampleDisk.exposed sampleConfig) ∧
      ∀ s, .source s ∈ o.nodes → ∃ tree, sampleDisk.parse s.path ⟨12⟩ = .ok tree ∧
        sampleDisk.exposed sampleConfig s.path = tree.exposedNames true := by
  intro o statements
  have hok : (generate sampleConfig sampleDisk).1 = .ok statements := by decide +kernel
  exact ⟨hok, generate_eq_flattening (by decide) (by decide) (by decide) hok⟩

end PackageIndex
