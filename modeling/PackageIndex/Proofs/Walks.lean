import PackageIndex.Proofs.Resolution

/-!
# Walks along paths

`Walk` says by rules how the steps of a path are followed from a directory, and how many links are
followed on the way.  Each rule treats one kind of step: it stays, goes to the parent, enters a
directory, follows a link, or ends the walk at what stands there or at a place where nothing does.
No rule knows of a limit on links, so that a walk may be of any length.

A path leads to an outcome if a walk of at most forty links does (`LeadsTo`).  There is one outcome
at most, and it is the one that the path is resolved to (`leadsTo_iff`).  A path without an outcome
has too many links on its way (`resolve_eq_tooManyLinks_iff`).  This is so in particular if links
lead in a circle, where no walk ends (`Loops.not_walk`).
-/

namespace PackageIndex

/-- A node that no way goes through: a regular file or a pipe. -/
def Node.IsEnd : Node → Prop
  | .file _ | .pipe => True
  | .directory | .link _ => False

namespace Disk

/-- Where the target of a link is followed from: the top if it is anchored, or the directory that
the link stands in. -/
def linkOrigin (directory : Location) (target : String) : Location :=
  if target.toList.head? = some '/' then [] else directory

/-- Following steps from a directory leads to an outcome, and through that many links. -/
inductive Walk (d : Disk) : ℕ → Location → List String → Resolution → Prop
  /-- No step is left. -/
  | stop {directory} : Walk d 0 directory [] (.found directory .directory)
  /-- The step stays in place. -/
  | stay {n directory step steps outcome} : step = "" ∨ step = "." →
      Walk d n directory steps outcome → Walk d n directory (step :: steps) outcome
  /-- The step goes to the parent; the top is its own parent. -/
  | up {n directory steps outcome} : Walk d n directory.dropLast steps outcome →
      Walk d n directory (".." :: steps) outcome
  /-- The step goes to a directory. -/
  | enter {n directory step steps outcome} : IsName step →
      d.node? (directory ++ [step]) = some .directory →
      Walk d n (directory ++ [step]) steps outcome → Walk d n directory (step :: steps) outcome
  /-- A link is replaced by the steps of its target. -/
  | link {n directory step steps outcome target} : IsName step →
      d.node? (directory ++ [step]) = some (.link target) → target ≠ "" →
      Walk d n (linkOrigin directory target) (targetSteps target ++ steps) outcome →
      Walk d (n + 1) directory (step :: steps) outcome
  /-- A link without a target leads to nothing. -/
  | emptyLink {directory step steps} : IsName step →
      d.node? (directory ++ [step]) = some (.link "") →
      Walk d 1 directory (step :: steps) (.fault .notFound)
  /-- The last step goes to a file or a pipe. -/
  | arrive {directory step node} : IsName step →
      d.node? (directory ++ [step]) = some node → node.IsEnd →
      Walk d 0 directory [step] (.found (directory ++ [step]) node)
  /-- A file or a pipe is in the way of further steps. -/
  | block {directory step steps node} : IsName step →
      d.node? (directory ++ [step]) = some node → node.IsEnd → steps ≠ [] →
      Walk d 0 directory (step :: steps) (.fault .notDirectory)
  /-- The last step goes to a place where nothing stands. -/
  | vacant {directory step} : IsName step → d.node? (directory ++ [step]) = none →
      Walk d 0 directory [step] (.vacant (directory ++ [step]) false)
  /-- The last step goes to a place where nothing stands, and a slash follows. -/
  | vacantDirectory {directory step} : IsName step → d.node? (directory ++ [step]) = none →
      Walk d 0 directory [step, ""] (.vacant (directory ++ [step]) true)
  /-- Nothing stands where further steps should start. -/
  | miss {directory step steps} : IsName step → d.node? (directory ++ [step]) = none →
      steps ≠ [] → steps ≠ [""] → Walk d 0 directory (step :: steps) (.fault .notFound)

variable {d : Disk} {directory : Location} {steps : List String} {outcome : Resolution}

/-! ## From paths to walks -/

/-- A step that is no name moves to the parent or not at all. -/
lemma Walk.of_not_isName {n : ℕ} {step : String} (hs : ¬ IsName step)
    (h : d.Walk n (if step = ".." then directory.dropLast else directory) steps outcome) :
    d.Walk n directory (step :: steps) outcome := by
  by_cases hup : step = ".."
  · subst hup
    exact .up h
  · rw [if_neg hup] at h
    exact .stay (stays_of_not_isName hs hup) h

/-- A stride without links is a walk. -/
lemma walk_of_stride_arrived (h : d.stride directory steps = .arrived outcome) :
    d.Walk 0 directory steps outcome := by
  induction steps generalizing directory with
  | nil =>
    obtain rfl : Resolution.found directory .directory = outcome := by simpa [stride] using h
    exact .stop
  | cons step steps ih =>
    by_cases hs : IsName step
    · rw [stride_cons hs] at h
      cases hnode : d.node? (directory ++ [step]) with
      | none =>
        simp only [hnode, Stride.arrived.injEq] at h
        subst h
        split_ifs with hnil hslash
        · subst hnil
          exact .vacant hs hnode
        · subst hslash
          exact .vacantDirectory hs hnode
        · exact .miss hs hnode hnil hslash
      | some node =>
        cases node with
        | directory =>
          simp only [hnode] at h
          exact .enter hs hnode (ih h)
        | link target => simp [hnode] at h
        | file content | pipe =>
          simp only [hnode, Stride.arrived.injEq] at h
          subst h
          split_ifs with hnil
          · subst hnil
            exact .arrive hs hnode trivial
          · exact .block hs hnode trivial hnil
    · rw [stride_cons_of_not_isName hs] at h
      exact .of_not_isName hs (ih h)

/-- A stride to a link is a walk up to the link, which the walk from its target can be put
behind. -/
lemma walk_of_stride_link {origin : Location} {target : String} {left : List String}
    (h : d.stride directory steps = .link origin target left) :
    (target = "" → d.Walk 1 directory steps (.fault .notFound)) ∧
      (target ≠ "" → ∀ n outcome,
        d.Walk n (linkOrigin origin target) (targetSteps target ++ left) outcome →
        d.Walk (n + 1) directory steps outcome) := by
  induction steps generalizing directory with
  | nil => simp [stride] at h
  | cons step steps ih =>
    by_cases hs : IsName step
    · rw [stride_cons hs] at h
      cases hnode : d.node? (directory ++ [step]) with
      | none => simp [hnode] at h
      | some node =>
        cases node with
        | directory =>
          simp only [hnode] at h
          obtain ⟨hempty, hlink⟩ := ih h
          exact ⟨fun ht => .enter hs hnode (hempty ht),
            fun ht n outcome hw => .enter hs hnode (hlink ht n outcome hw)⟩
        | link text =>
          simp only [hnode, Stride.link.injEq] at h
          obtain ⟨rfl, rfl, rfl⟩ := h
          refine ⟨fun ht => ?_, fun ht n outcome hw => .link hs hnode ht hw⟩
          subst ht
          exact .emptyLink hs hnode
        | file content => simp [hnode] at h
        | pipe => simp [hnode] at h
    · rw [stride_cons_of_not_isName hs] at h
      obtain ⟨hempty, hlink⟩ := ih h
      exact ⟨fun ht => .of_not_isName hs (hempty ht),
        fun ht n outcome hw => .of_not_isName hs (hlink ht n outcome hw)⟩

/-- Unless too many links are met, following steps is a walk. -/
theorem exists_walk_of_follow {links : ℕ}
    (h : d.follow links directory steps ≠ .fault .tooManyLinks) :
    ∃ n ≤ links, d.Walk n directory steps (d.follow links directory steps) := by
  fun_induction d.follow links directory steps with
  | case1 links directory steps outcome hs => exact ⟨0, Nat.zero_le _, walk_of_stride_arrived hs⟩
  | case2 => exact absurd rfl h
  | case3 directory steps origin target left hs links ht =>
    refine ⟨1, by omega, (walk_of_stride_link hs).1 ?_⟩
    simpa using ht
  | case4 directory steps origin target left hs links ht start ih =>
    obtain ⟨n, hn, hw⟩ := ih h
    refine ⟨n + 1, by omega, (walk_of_stride_link hs).2 ?_ n _ hw⟩
    simpa using ht

/-! ## From walks to paths -/

/-- Steps that give the same stride are followed alike. -/
lemma follow_congr {links : ℕ} {other : Location} {others : List String}
    (h : d.stride directory steps = d.stride other others) :
    d.follow links directory steps = d.follow links other others := by
  cases links with
  | zero => unfold follow; rw [h]
  | succ links => rw [follow, follow, h]

/-- A file or a pipe ends a stride. -/
lemma stride_cons_of_isEnd {step : String} {node : Node} (hs : IsName step)
    (hnode : d.node? (directory ++ [step]) = some node) (hend : node.IsEnd) :
    d.stride directory (step :: steps) =
      .arrived (if steps = [] then .found (directory ++ [step]) node
        else .fault .notDirectory) := by
  rw [stride_cons hs, hnode]
  cases node with
  | file content | pipe => rfl
  | directory | link target => exact hend.elim

/-- A walk is what following its steps amounts to if enough links may be followed. -/
theorem Walk.follow_eq {n links : ℕ} (h : d.Walk n directory steps outcome) (hn : n ≤ links) :
    d.follow links directory steps = outcome := by
  -- a step that is no link belongs to the same stride as the steps behind it
  induction h generalizing links with
  | stop => exact follow_of_arrived rfl
  | stay hstay _ ih =>
    rw [← ih hn]
    exact follow_congr (by rw [stride, if_pos hstay])
  | up _ ih =>
    rw [← ih hn]
    exact follow_congr rfl
  | enter hs hnode _ ih =>
    rw [← ih hn]
    exact follow_congr (by rw [stride_cons hs, hnode])
  | @link n directory step steps outcome target hs hnode ht _ ih =>
    obtain ⟨links, rfl⟩ : ∃ m, links = m + 1 := ⟨links - 1, by omega⟩
    have hstride : d.stride directory (step :: steps) = .link directory target steps := by
      rw [stride_cons hs, hnode]
    rw [follow_succ_of_link hstride, if_neg (by simpa using ht)]
    exact ih (by omega)
  | @emptyLink directory step steps hs hnode =>
    obtain ⟨links, rfl⟩ : ∃ m, links = m + 1 := ⟨links - 1, by omega⟩
    have hstride : d.stride directory (step :: steps) = .link directory "" steps := by
      rw [stride_cons hs, hnode]
    rw [follow_succ_of_link hstride, if_pos (by simp)]
  | arrive hs hnode hend =>
    apply follow_of_arrived
    rw [stride_cons_of_isEnd hs hnode hend, if_pos rfl]
  | block hs hnode hend hne =>
    apply follow_of_arrived
    rw [stride_cons_of_isEnd hs hnode hend, if_neg hne]
  | vacant hs hnode =>
    apply follow_of_arrived
    rw [stride_cons hs, hnode]
    simp
  | vacantDirectory hs hnode =>
    apply follow_of_arrived
    rw [stride_cons hs, hnode]
    simp
  | miss hs hnode hnil hslash =>
    apply follow_of_arrived
    rw [stride_cons hs, hnode]
    simp [hnil, hslash]

/-- A walk that leads nowhere stops where something is missing or in the way. -/
lemma Walk.fault_cases {n : ℕ} {f : Fault} (h : d.Walk n directory steps (.fault f)) :
    f = .notFound ∨ f = .notDirectory := by
  generalize hout : Resolution.fault f = outcome at h
  induction h with
  | stay _ _ ih | up _ ih | enter _ _ _ ih | link _ _ _ _ ih => exact ih hout
  | emptyLink | miss => exact Or.inl (Resolution.fault.inj hout)
  | block => exact Or.inr (Resolution.fault.inj hout)
  | stop | arrive | vacant | vacantDirectory => simp at hout

/-! ## Outcomes of paths -/

/-- A path leads to an outcome through no more links than are followed. -/
def LeadsTo (d : Disk) (p : Path) (outcome : Resolution) : Prop :=
  ∃ n ≤ maxLinks, d.Walk n [] p.parts outcome

/-- A path leads to what it is resolved to, and to nothing else. -/
theorem leadsTo_iff {p : Path} :
    d.LeadsTo p outcome ↔ d.resolve p = outcome ∧ outcome ≠ .fault .tooManyLinks := by
  constructor
  · rintro ⟨n, hn, hw⟩
    refine ⟨hw.follow_eq hn, ?_⟩
    rintro rfl
    simpa using hw.fault_cases
  · rintro ⟨rfl, hne⟩
    exact exists_walk_of_follow hne

/-- A path that leads to nothing has too many links on its way. -/
theorem resolve_eq_tooManyLinks_iff {p : Path} :
    d.resolve p = .fault .tooManyLinks ↔ ∀ outcome, ¬ d.LeadsTo p outcome := by
  simp only [leadsTo_iff]
  constructor
  · rintro h outcome ⟨hout, hne⟩
    exact hne (hout.symm.trans h)
  · intro h
    by_contra hne
    exact h _ ⟨rfl, hne⟩

/-! ## Links without end -/

/-- From a directory and the steps that are left, the way goes up to a link and on with the steps of
its target. -/
def NextLink (d : Disk) (here next : Location × List String) : Prop :=
  ∃ origin target left, d.stride here.1 here.2 = .link origin target left ∧ target ≠ "" ∧
    next = (linkOrigin origin target, targetSteps target ++ left)

/-- The way along a path goes from link to link without end, as it does where links lead in a
circle. -/
def Loops (d : Disk) (p : Path) : Prop :=
  ∃ way : ℕ → Location × List String, way 0 = ([], p.parts) ∧
    ∀ i, d.NextLink (way i) (way (i + 1))

/-- However many links may be followed on a way without end, there are more. -/
lemma follow_of_nextLink {way : ℕ → Location × List String}
    (h : ∀ i, d.NextLink (way i) (way (i + 1))) (links i : ℕ) :
    d.follow links (way i).1 (way i).2 = .fault .tooManyLinks := by
  induction links generalizing i with
  | zero =>
    obtain ⟨origin, target, left, hs, -, -⟩ := h i
    exact follow_zero_of_link hs
  | succ links ih =>
    obtain ⟨origin, target, left, hs, ht, hnext⟩ := h i
    have hrest := ih (i + 1)
    rw [hnext] at hrest
    rw [follow_succ_of_link hs, if_neg (by simpa using ht)]
    exact hrest

/-- There is no walk along links without end. -/
theorem Loops.not_walk {p : Path} (h : d.Loops p) (n : ℕ) (outcome : Resolution) :
    ¬ d.Walk n [] p.parts outcome := by
  intro hw
  obtain ⟨way, hstart, hnext⟩ := h
  have hmany := follow_of_nextLink hnext n 0
  rw [hstart, hw.follow_eq le_rfl] at hmany
  subst hmany
  simpa using hw.fault_cases

/-- A path along links without end leads to nothing at all. -/
lemma Loops.not_leadsTo {p : Path} (h : d.Loops p) (outcome : Resolution) :
    ¬ d.LeadsTo p outcome := by
  rintro ⟨n, -, hw⟩
  exact h.not_walk n outcome hw

end Disk

end PackageIndex
