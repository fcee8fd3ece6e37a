import PackageIndex.Disk.Resolve
import Mathlib

/-!
# Places, listings and paths

What the other modules need to know about disks, so that they need not open the definitions.

`node?_set` says what a change of one place leaves alone, and `length_le_depth` that the depth of a
disk bounds the length of every location that something stands at.  `mem_childNames`,
`nodup_childNames` and `filter_childNames_congr` describe the listing of a directory by what stands
below it.

A path is followed in strides from link to link.  The steps up to a directory can be cut off
(`exists_follow_append`): what is left is followed from that directory, with the links that are
left.  So a path that goes on from a directory by one more name leads to the child of that name
(`resolve_child`), unless the child is a link; then it leads where the link leads when more links
may be followed (`follow_of_le`).
-/

namespace PackageIndex

/-- A name that something can stand under: it is not empty and moves on to a child. -/
def IsName (name : String) : Prop := name ≠ "" ∧ name ≠ "." ∧ name ≠ ".."

instance (name : String) : Decidable (IsName name) :=
  inferInstanceAs (Decidable (name ≠ "" ∧ name ≠ "." ∧ name ≠ ".."))

namespace Disk

variable {d : Disk}

/-! ## Places -/

/-- The working directory stands at the top. -/
@[simp] lemma node?_nil (d : Disk) : d.node? [] = some .directory := by
  simp [node?]

/-- Setting a node changes what stands at its place and nothing else. -/
lemma node?_set (d : Disk) {place : Location} (hp : place ≠ []) (node : Node) (other : Location) :
    (d.set place node).node? other = if other = place then some node else d.node? other := by
  by_cases ho : other = []
  · subst ho
    simp [hp.symm]
  by_cases h : other = place
  · subst h
    simp [node?, set, ho]
  · have hlook : (d.entries.filter (·.1 ≠ place)).lookup other = d.entries.lookup other := by
      induction d.entries with
      | nil => rfl
      | cons entry rest ih =>
        by_cases he : entry.1 = place
        · have hne : (other == entry.1) = false := by simpa [he] using h
          rw [List.filter_cons_of_neg (by simpa using he), List.lookup_cons, hne, ih]
        · rw [List.filter_cons_of_pos (by simpa using he), List.lookup_cons, List.lookup_cons, ih]
    have hne : (other == place) = false := by simpa using h
    simp only [node?, ho, if_false, h, set, List.lookup_cons, hne]
    exact hlook

/-- Something stands below the top exactly where there is an entry. -/
lemma node?_ne_none_iff {place : Location} (hp : place ≠ []) :
    d.node? place ≠ none ↔ ∃ node, (place, node) ∈ d.entries := by
  simp only [node?, hp, if_false, ne_eq, List.lookup_eq_none_iff, not_forall, bne_iff_ne, ne_eq,
    not_not]
  constructor
  · rintro ⟨⟨p, node⟩, hmem, rfl⟩
    exact ⟨node, hmem⟩
  · rintro ⟨node, hmem⟩
    exact ⟨(place, node), hmem, rfl⟩

/-- Nothing stands deeper than the depth of the disk. -/
lemma length_le_depth {place : Location} {node : Node} (h : d.node? place = some node) :
    place.length ≤ d.depth := by
  by_cases hp : place = []
  · simp [hp]
  obtain ⟨n, hn⟩ := (node?_ne_none_iff (d := d) hp).1 (by simp [h])
  have hle : ∀ (ls : List ℕ) (m k : ℕ), k ≤ m ∨ k ∈ ls → k ≤ ls.foldl max m := by
    intro ls
    induction ls with
    | nil => simp
    | cons l ls ih =>
      intro m k hk
      refine ih (max m l) k ?_
      rcases hk with hk | hk
      · exact Or.inl (le_max_of_le_left hk)
      · rcases List.mem_cons.1 hk with rfl | hk
        · exact Or.inl (le_max_right m k)
        · exact Or.inr hk
  exact hle _ _ _ (Or.inr (List.mem_map.2 ⟨_, hn, rfl⟩))

/-! ## Listings -/

/-- A place is the child of a directory under a name exactly if the name leads there. -/
lemma childOf?_eq_some_iff {directory place : Location} {name : String} :
    childOf? directory place = some name ↔ place = directory ++ [name] := by
  unfold childOf?
  constructor
  · intro h
    split at h
    · rename_i hd
      obtain ⟨ys, rfl⟩ := List.getLast?_eq_some_iff.1 h
      simpa using hd
    · simp at h
  · rintro rfl
    simp

/-- The entries below a directory name what stands there. -/
lemma mem_filterMap_childOf? {directory : Location} {name : String} :
    name ∈ (d.entries.map Prod.fst).filterMap (childOf? directory) ↔
      d.node? (directory ++ [name]) ≠ none := by
  rw [node?_ne_none_iff (by simp)]
  simp [childOf?_eq_some_iff]

/-- Erasing repetitions leaves none. -/
lemma nodup_eraseDups {α : Type*} [BEq α] [LawfulBEq α] (l : List α) : l.eraseDups.Nodup := by
  induction hn : l.length using Nat.strong_induction_on generalizing l with
  | _ n ih =>
    cases l with
    | nil => simp
    | cons a l =>
      have hshort : (l.filter fun b => !b == a).length < n := by
        have hle := List.length_filter_le (fun b => !b == a) l
        rw [List.length_cons] at hn
        omega
      rw [List.eraseDups_cons, List.nodup_cons]
      exact ⟨by simp [List.mem_eraseDups], ih _ hshort _ rfl⟩

/-- A directory lists the names that something stands under. -/
lemma mem_childNames {directory : Location} {name : String} :
    name ∈ d.childNames directory ↔ d.node? (directory ++ [name]) ≠ none := by
  rw [← mem_filterMap_childOf?, childNames]
  by_cases hm : name ∈ d.mentions.filterMap (childOf? directory) <;>
    simp only [List.mem_append, List.mem_filter, List.mem_mergeSort, List.mem_eraseDups,
      List.contains_eq_mem, hm] <;>
    simp

/-- A directory lists no name twice. -/
lemma nodup_childNames (d : Disk) (directory : Location) : (d.childNames directory).Nodup := by
  unfold childNames
  rw [List.nodup_append]
  refine ⟨(nodup_eraseDups _).filter _, ?_, ?_⟩
  · exact (List.mergeSort_perm _ _).nodup_iff.2 (nodup_eraseDups _)
  · intro a ha b hb hab
    subst hab
    simp only [List.mem_filter, List.mem_mergeSort, List.mem_eraseDups] at ha hb
    simp_all

/-- Two disks on which the same was mentioned list the same names of a kind, in the same order, if
the same names of that kind are there. -/
lemma filter_childNames_congr {c : Disk} {keep : String → Bool} {directory : Location}
    (hm : d.mentions = c.mentions)
    (hn : ∀ name, keep name →
      (d.node? (directory ++ [name]) ≠ none ↔ c.node? (directory ++ [name]) ≠ none)) :
    (d.childNames directory).filter keep = (c.childNames directory).filter keep := by
  have hmem (name : String) (hk : keep name) :
      name ∈ (d.entries.map Prod.fst).filterMap (childOf? directory) ↔
        name ∈ (c.entries.map Prod.fst).filterMap (childOf? directory) := by
    rw [mem_filterMap_childOf?, mem_filterMap_childOf?, hn name hk]
  unfold childNames
  rw [← hm]
  generalize (d.mentions.filterMap (childOf? directory)).eraseDups = mentioned
  revert hmem
  generalize (d.entries.map Prod.fst).filterMap (childOf? directory) = old
  generalize (c.entries.map Prod.fst).filterMap (childOf? directory) = new
  intro hmem
  rw [List.filter_append, List.filter_append]
  congr 1
  · rw [List.filter_filter, List.filter_filter]
    refine List.filter_congr fun name _ => ?_
    by_cases hk : keep name
    · simp [hk, hmem name hk]
    · simp [hk]
  · -- both sides are sorted lists without repetitions of the same names
    have hsorted (l : List String) :
        ((l.eraseDups.mergeSort fun a b => a ≤ b).filter keep).Pairwise (· ≤ ·) :=
      (List.pairwise_mergeSort' (· ≤ ·) _).filter _
    have hnodup (l : List String) :
        ((l.eraseDups.mergeSort fun a b => a ≤ b).filter keep).Nodup :=
      ((List.mergeSort_perm _ _).nodup_iff.2 (nodup_eraseDups l)).filter _
    refine List.Perm.eq_of_pairwise (fun a b _ _ => le_antisymm) (hsorted _) (hsorted _) ?_
    refine (List.perm_ext_iff_of_nodup (hnodup _) (hnodup _)).2 fun name => ?_
    simp only [List.mem_filter, List.mem_mergeSort, List.mem_eraseDups]
    by_cases hk : keep name
    · simp [hk, hmem name hk]
    · simp [hk]

/-! ## Strides -/

/-- A step by a name goes on by what stands there. -/
lemma stride_cons {step : String} (hs : IsName step) (directory : Location)
    (steps : List String) :
    d.stride directory (step :: steps) =
      match d.node? (directory ++ [step]) with
      | some .directory => d.stride (directory ++ [step]) steps
      | some (.link target) => .link directory target steps
      | some node =>
        .arrived (if steps = [] then .found (directory ++ [step]) node else .fault .notDirectory)
      | none =>
        .arrived (if steps = [] then .vacant (directory ++ [step]) false
          else if steps = [""] then .vacant (directory ++ [step]) true
          else .fault .notFound) := by
  obtain ⟨h₁, h₂, h₃⟩ := hs
  have hstay : ¬ (step = "" ∨ step = ".") := by simp [h₁, h₂]
  rw [stride]
  exact (if_neg hstay).trans (if_neg h₃)

/-- A step that is no name and does not go to the parent stays in place. -/
lemma stays_of_not_isName {step : String} (hs : ¬ IsName step) (hup : step ≠ "..") :
    step = "" ∨ step = "." := by
  by_contra h
  exact hs ⟨fun h₁ => h (Or.inl h₁), fun h₂ => h (Or.inr h₂), hup⟩

/-- Every other step stays in place or goes to the parent. -/
lemma stride_cons_of_not_isName {step : String} (hs : ¬ IsName step) (directory : Location)
    (steps : List String) :
    d.stride directory (step :: steps) =
      d.stride (if step = ".." then directory.dropLast else directory) steps := by
  by_cases hup : step = ".."
  · subst hup
    rfl
  · rw [stride, if_pos (stays_of_not_isName hs hup), if_neg hup]

/-- A stride that arrives at a directory goes on from there. -/
lemma stride_append_of_found {place : Location} {steps : List String} (rest : List String) :
    ∀ {directory : Location}, d.stride directory steps = .arrived (.found place .directory) →
      d.stride directory (steps ++ rest) = d.stride place rest := by
  induction steps with
  | nil =>
    intro directory h
    simp only [stride, Stride.arrived.injEq, Resolution.found.injEq, and_true] at h
    rw [List.nil_append, h]
  | cons step steps ih =>
    intro directory h
    by_cases hs : IsName step
    · rw [stride_cons hs] at h
      rw [List.cons_append, stride_cons hs]
      cases hnode : d.node? (directory ++ [step]) with
      | none =>
        simp only [hnode, Stride.arrived.injEq] at h
        split_ifs at h
      | some node =>
        cases node with
        | directory =>
          simp only [hnode] at h ⊢
          exact ih h
        | link target => simp [hnode] at h
        | file content =>
          simp only [hnode, Stride.arrived.injEq] at h
          split_ifs at h
          simp at h
        | pipe =>
          simp only [hnode, Stride.arrived.injEq] at h
          split_ifs at h
          simp at h
    · rw [stride_cons_of_not_isName hs] at h
      rw [List.cons_append, stride_cons_of_not_isName hs]
      exact ih h

/-- A stride that meets a link leaves what comes after it to be followed later. -/
lemma stride_append_of_link {origin : Location} {target : String} {steps left : List String}
    (rest : List String) :
    ∀ {directory : Location}, d.stride directory steps = .link origin target left →
      d.stride directory (steps ++ rest) = .link origin target (left ++ rest) := by
  induction steps with
  | nil =>
    intro directory h
    simp [stride] at h
  | cons step steps ih =>
    intro directory h
    by_cases hs : IsName step
    · rw [stride_cons hs] at h
      rw [List.cons_append, stride_cons hs]
      cases hnode : d.node? (directory ++ [step]) with
      | none => simp [hnode] at h
      | some node =>
        cases node with
        | directory =>
          simp only [hnode] at h ⊢
          exact ih h
        | link text =>
          simp only [hnode, Stride.link.injEq] at h ⊢
          obtain ⟨rfl, rfl, rfl⟩ := h
          exact ⟨rfl, rfl, rfl⟩
        | file content => simp [hnode] at h
        | pipe => simp [hnode] at h
    · rw [stride_cons_of_not_isName hs] at h
      rw [List.cons_append, stride_cons_of_not_isName hs]
      exact ih h

/-! ## Links -/

/-- No link is followed on a way without links. -/
lemma follow_of_arrived {links : ℕ} {directory : Location} {steps : List String}
    {outcome : Resolution} (h : d.stride directory steps = .arrived outcome) :
    d.follow links directory steps = outcome := by
  unfold follow
  simp only [h]

/-- A link is not followed if no more links may be. -/
lemma follow_zero_of_link {directory origin : Location} {steps left : List String}
    {target : String} (h : d.stride directory steps = .link origin target left) :
    d.follow 0 directory steps = .fault .tooManyLinks := by
  unfold follow
  simp only [h]

/-- A link is replaced by the steps of its target. -/
lemma follow_succ_of_link {links : ℕ} {directory origin : Location} {steps left : List String}
    {target : String} (h : d.stride directory steps = .link origin target left) :
    d.follow (links + 1) directory steps =
      if target.isEmpty then .fault .notFound
      else d.follow links (if target.toList.head? = some '/' then [] else origin)
        (targetSteps target ++ left) := by
  rw [follow]
  simp only [h]

/-- Steps that lead to a directory can be cut off. -/
lemma exists_follow_append {place : Location} :
    ∀ {links : ℕ} {directory : Location} {steps : List String},
      d.follow links directory steps = .found place .directory →
      ∃ left ≤ links, ∀ rest,
        d.follow links directory (steps ++ rest) = d.follow left place rest := by
  intro links
  induction links with
  | zero =>
    intro directory steps h
    cases hs : d.stride directory steps with
    | arrived outcome =>
      rw [follow_of_arrived hs] at h
      subst h
      refine ⟨0, le_rfl, fun rest => ?_⟩
      unfold follow
      rw [stride_append_of_found rest hs]
    | link origin target left => simp [follow_zero_of_link hs] at h
  | succ links ih =>
    intro directory steps h
    cases hs : d.stride directory steps with
    | arrived outcome =>
      rw [follow_of_arrived hs] at h
      subst h
      refine ⟨links + 1, le_rfl, fun rest => ?_⟩
      unfold follow
      rw [stride_append_of_found rest hs]
    | link origin target left =>
      rw [follow_succ_of_link hs] at h
      by_cases ht : target.isEmpty
      · simp [ht] at h
      rw [if_neg ht] at h
      obtain ⟨n, hn, hrest⟩ := ih h
      refine ⟨n, Nat.le_succ_of_le hn, fun rest => ?_⟩
      rw [follow_succ_of_link (stride_append_of_link rest hs), if_neg ht, ← List.append_assoc]
      exact hrest rest

/-- More links change nothing for a path that does not fail for too many links. -/
lemma follow_of_le :
    ∀ {links more : ℕ} {directory : Location} {steps : List String}, links ≤ more →
      d.follow links directory steps ≠ .fault .tooManyLinks →
      d.follow more directory steps = d.follow links directory steps := by
  intro links
  induction links with
  | zero =>
    intro more directory steps _ h
    cases hs : d.stride directory steps with
    | arrived outcome => rw [follow_of_arrived hs, follow_of_arrived hs]
    | link origin target left => exact absurd (follow_zero_of_link hs) h
  | succ links ih =>
    intro more directory steps hle h
    obtain ⟨more, rfl⟩ : ∃ n, more = n + 1 := ⟨more - 1, by omega⟩
    cases hs : d.stride directory steps with
    | arrived outcome => rw [follow_of_arrived hs, follow_of_arrived hs]
    | link origin target left =>
      rw [follow_succ_of_link hs] at h ⊢
      rw [follow_succ_of_link hs]
      by_cases ht : target.isEmpty
      · rw [if_pos ht, if_pos ht]
      · rw [if_neg ht] at h ⊢
        rw [if_neg ht]
        exact ih (Nat.le_of_succ_le_succ hle) h

/-! ## Outcomes -/

/-- What a path leads to stands where the path leads, and nothing stands where it leads to a vacant
place.  Of directories nothing is said. -/
def AgreesWith (d : Disk) : Resolution → Prop
  | .found place node => node = .directory ∨ d.node? place = some node
  | .vacant place _ => d.node? place = none
  | .fault _ => True

/-- What a walk without links arrives at is what the disk holds there. -/
lemma agreesWith_of_stride {outcome : Resolution} {steps : List String} :
    ∀ {directory : Location}, d.stride directory steps = .arrived outcome →
      d.AgreesWith outcome := by
  induction steps with
  | nil =>
    intro directory h
    obtain rfl : Resolution.found directory .directory = outcome := by simpa [stride] using h
    exact Or.inl rfl
  | cons step steps ih =>
    intro directory h
    by_cases hs : IsName step
    · rw [stride_cons hs] at h
      cases hnode : d.node? (directory ++ [step]) with
      | none =>
        simp only [hnode, Stride.arrived.injEq] at h
        subst h
        split_ifs <;> simp [AgreesWith, hnode]
      | some node =>
        cases node with
        | directory =>
          simp only [hnode] at h
          exact ih h
        | link target => simp [hnode] at h
        | file content | pipe =>
          simp only [hnode, Stride.arrived.injEq] at h
          subst h
          split_ifs <;> simp [AgreesWith, hnode]
    · rw [stride_cons_of_not_isName hs] at h
      exact ih h

/-- What a walk ends at is what the disk holds there. -/
lemma agreesWith_follow (d : Disk) (links : ℕ) (directory : Location) (steps : List String) :
    d.AgreesWith (d.follow links directory steps) := by
  fun_induction d.follow links directory steps with
  | case1 _ _ _ outcome hs => exact agreesWith_of_stride hs
  | case2 => trivial
  | case3 => trivial
  | case4 _ _ _ _ _ _ _ _ _ ih => exact ih

/-- A stride never ends at a link. -/
lemma stride_ne_link {place : Location} {target : String} {steps : List String} :
    ∀ {directory : Location},
      d.stride directory steps ≠ .arrived (.found place (.link target)) := by
  induction steps with
  | nil => simp [stride]
  | cons step steps ih =>
    intro directory
    by_cases hs : IsName step
    · rw [stride_cons hs]
      cases hnode : d.node? (directory ++ [step]) with
      | none =>
        simp only [ne_eq, Stride.arrived.injEq]
        split_ifs <;> simp
      | some node =>
        cases node with
        | directory => exact ih
        | link text => simp
        | file content | pipe =>
          simp only [ne_eq, Stride.arrived.injEq]
          split_ifs <;> simp
    · rw [stride_cons_of_not_isName hs]
      exact ih

/-- A path never leads to a link, since links at its end are followed too. -/
lemma resolve_ne_link (p : Path) (place : Location) (target : String) :
    d.resolve p ≠ .found place (.link target) := by
  have hfollow (links : ℕ) (directory : Location) (steps : List String) :
      d.follow links directory steps ≠ .found place (.link target) := by
    fun_induction d.follow links directory steps with
    | case1 _ _ _ outcome hs =>
      rintro rfl
      exact stride_ne_link hs
    | case2 => simp
    | case3 => simp
    | case4 _ _ _ _ _ _ _ _ _ ih => exact ih
  exact hfollow _ _ _

/-! ## Children of a directory -/

/-- The children of a directory that a path leads to are followed from that directory. -/
lemma exists_resolve_child {p : Path} {place : Location}
    (h : d.resolve p = .found place .directory) :
    ∃ left ≤ maxLinks, ∀ name, d.resolve (p.child name) = d.follow left place [name] := by
  obtain ⟨left, hleft, hrest⟩ := exists_follow_append h
  exact ⟨left, hleft, fun name => hrest [name]⟩

/-- The path of a child leads to the child, unless that is a link. -/
lemma resolve_child {p : Path} {place : Location} {name : String}
    (h : d.resolve p = .found place .directory) (hn : IsName name)
    (hl : ∀ target, d.node? (place ++ [name]) ≠ some (.link target)) :
    d.resolve (p.child name) =
      match d.node? (place ++ [name]) with
      | some node => .found (place ++ [name]) node
      | none => .vacant (place ++ [name]) false := by
  obtain ⟨left, -, hfollow⟩ := exists_resolve_child h
  rw [hfollow]
  cases hnode : d.node? (place ++ [name]) with
  | none => exact follow_of_arrived (by simp [stride_cons hn, hnode])
  | some node =>
    cases node with
    | link target => exact absurd hnode (hl target)
    | file content => exact follow_of_arrived (by simp [stride_cons hn, hnode])
    | directory => exact follow_of_arrived (by rw [stride_cons hn]; simp only [hnode, stride])
    | pipe => exact follow_of_arrived (by simp [stride_cons hn, hnode])

/-! ## Directories on the way -/

/-- A directory stands at a place, and at every place on the way there from the top. -/
def HoldsDirectory (d : Disk) (place : Location) : Prop :=
  ∀ front, front <+: place → d.node? front = some .directory

/-- The top of a disk is a directory. -/
lemma holdsDirectory_nil (d : Disk) : d.HoldsDirectory [] := by
  intro front hfront
  rw [List.prefix_nil.1 hfront, node?_nil]

/-- A directory stands where a location leads through directories. -/
lemma HoldsDirectory.node?_eq {place : Location} (h : d.HoldsDirectory place) :
    d.node? place = some .directory :=
  h place List.prefix_rfl

/-- Whatever a directory lies below is a directory. -/
lemma HoldsDirectory.mono {place front : Location} (h : d.HoldsDirectory place)
    (hfront : front <+: place) : d.HoldsDirectory front :=
  fun _ hother => h _ (hother.trans hfront)

/-- A directory in a directory is reached through directories. -/
lemma HoldsDirectory.child {directory : Location} {name : String} (h : d.HoldsDirectory directory)
    (hnode : d.node? (directory ++ [name]) = some .directory) :
    d.HoldsDirectory (directory ++ [name]) := by
  intro front hfront
  rcases List.prefix_concat_iff.1 hfront with rfl | hfront
  · exact hnode
  · exact h front hfront

/-- The directory that a stride has come to when it ends at one or meets a link in one. -/
def Stride.directory? : Stride → Option Location
  | .arrived (.found place .directory) => some place
  | .link origin _ _ => some origin
  | _ => none

/-- A stride only passes through directories. -/
lemma HoldsDirectory.stride {steps : List String} {place : Location} :
    ∀ {directory : Location}, d.HoldsDirectory directory →
      (d.stride directory steps).directory? = some place → d.HoldsDirectory place := by
  induction steps with
  | nil =>
    intro directory h hs
    obtain rfl : directory = place := by simpa [Disk.stride, Stride.directory?] using hs
    exact h
  | cons step steps ih =>
    intro directory h hs
    by_cases hn : IsName step
    · rw [stride_cons hn] at hs
      cases hnode : d.node? (directory ++ [step]) with
      | none =>
        simp only [hnode] at hs
        split_ifs at hs <;> simp [Stride.directory?] at hs
      | some node =>
        cases node with
        | directory =>
          simp only [hnode] at hs
          exact ih (h.child hnode) hs
        | link target =>
          obtain rfl : directory = place := by simpa [hnode, Stride.directory?] using hs
          exact h
        | file content | pipe =>
          simp only [hnode] at hs
          split_ifs at hs <;> simp [Stride.directory?] at hs
    · rw [stride_cons_of_not_isName hn] at hs
      refine ih ?_ hs
      split_ifs
      · exact h.mono (List.dropLast_prefix directory)
      · exact h

/-- A path leads to a directory through directories only. -/
lemma HoldsDirectory.follow {links : ℕ} {directory place : Location} {steps : List String}
    (h : d.HoldsDirectory directory)
    (hf : d.follow links directory steps = .found place .directory) : d.HoldsDirectory place := by
  fun_induction d.follow links directory steps with
  | case1 links directory steps outcome hs =>
    subst hf
    exact h.stride (by rw [hs]; rfl)
  | case2 => simp at hf
  | case3 => simp at hf
  | case4 directory steps origin target left hs links ht start ih =>
    have horigin : d.HoldsDirectory origin := h.stride (by rw [hs]; rfl)
    refine ih ?_ hf
    unfold start
    split_ifs
    · exact holdsDirectory_nil d
    · exact horigin

/-- Where a path leads to a directory, there is one. -/
lemma holdsDirectory_of_resolve {p : Path} {place : Location}
    (h : d.resolve p = .found place .directory) : d.HoldsDirectory place :=
  (holdsDirectory_nil d).follow h

end Disk

end PackageIndex
