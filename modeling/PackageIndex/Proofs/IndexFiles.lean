import PackageIndex.Generate
import PackageIndex.Proofs.Resolution

/-!
# Disks that differ in their indexes

What a run changes are the regular files that it writes indexes to.  `EqOffFiles` relates two disks
that agree in everything but regular files, `EqOffIndexes` two disks that agree in everything but
which regular files stand under the name of an index, what these hold and where they are listed.

On such disks a path that leads to a directory, or to something that is the same on both, leads to
the same place (`EqOffFiles.follow_eq`), and paths lead to the same places as long as only places
count where a file can be read or written (`EqOffFiles.follow_target?`).  Links can therefore betray
whether an index is there only if they lead to where it would stand.  `LinksAvoidIndexes` excludes
that below the root of a run.  It holds of both disks or of neither, and under it a scan sees the
same entries (`EqOffIndexes.entry?_eq`) and a source that is read holds the same tree.
-/

namespace PackageIndex

/-- The name of an index is a proper name. -/
lemma isName_indexName : IsName indexName := by
  decide

/-- The place of the file that is read or written through a path. -/
def Resolution.target? : Resolution → Option Location
  | .found place _ => some place
  | .vacant place false => some place
  | .vacant _ true => none
  | .fault _ => none

namespace Disk

/-- Everything on the disk stands under a proper name. -/
def HasNames (d : Disk) : Prop :=
  ∀ directory name, d.node? (directory ++ [name]) ≠ none → IsName name

/-- Nothing but a regular file stands at a place. -/
def HoldsOnlyFile (d : Disk) (place : Location) : Prop :=
  ∀ node, d.node? place = some node → ∃ content, node = .file content

/-- No symbolic link below a place is named as an index or leads to where an index stands or could
be written. -/
structure LinksAvoidIndexes (d : Disk) (root : Location) : Prop where
  name_ne : ∀ directory name target, root <+: directory →
    d.node? (directory ++ [name]) = some (.link target) → name ≠ indexName
  target_ne : ∀ directory name target place, root <+: directory →
    d.node? (directory ++ [name]) = some (.link target) →
    (d.follow maxLinks directory [name]).target? = some place → place.getLast? ≠ some indexName

/-- Two disks agree in everything but which regular files there are and what these hold. -/
def EqOffFiles (d c : Disk) : Prop :=
  ∀ place, d.node? place = c.node? place ∨ (d.HoldsOnlyFile place ∧ c.HoldsOnlyFile place)

/-- Two disks agree in everything but the presence, the content and the listed position of regular
files that are named as indexes. -/
structure EqOffIndexes (d c : Disk) : Prop where
  node?_eq : ∀ place, d.node? place = c.node? place ∨
    (place.getLast? = some indexName ∧ d.HoldsOnlyFile place ∧ c.HoldsOnlyFile place)
  names_eq : ∀ directory, (d.childNames directory).filter (· != indexName) =
    (c.childNames directory).filter (· != indexName)

/-- A disk has proper names if all of its entries have. -/
lemma hasNames_iff {d : Disk} :
    d.HasNames ↔ ∀ entry ∈ d.entries, ∀ name ∈ entry.1.getLast?, IsName name := by
  constructor
  · rintro h ⟨place, node⟩ hmem name hname
    obtain ⟨directory, rfl⟩ := List.getLast?_eq_some_iff.1 hname
    exact h directory name ((node?_ne_none_iff (by simp)).2 ⟨node, hmem⟩)
  · intro h directory name hnode
    obtain ⟨node, hmem⟩ := (node?_ne_none_iff (by simp)).1 hnode
    exact h _ hmem name (by simp)

instance (d : Disk) : Decidable d.HasNames := decidable_of_iff _ hasNames_iff.symm

/-- A place holds no link that is named as an index or leads to where one stands or could be
written. -/
def linkAvoidsIndexes (d : Disk) (place : Location) : Bool :=
  match d.node? place with
  | some (.link _) =>
    place.getLast? != some indexName &&
      ((d.follow maxLinks place.dropLast place.getLast?.toList).target?.bind List.getLast?) !=
        some indexName
  | _ => true

/-- Links avoid indexes if those among the entries do. -/
lemma linksAvoidIndexes_iff {d : Disk} {root : Location} :
    d.LinksAvoidIndexes root ↔ ∀ entry ∈ d.entries, entry.1 ≠ [] → root <+: entry.1.dropLast →
      d.linkAvoidsIndexes entry.1 = true := by
  constructor
  · rintro h ⟨place, node⟩ - hne hroot
    obtain ⟨directory, name, rfl⟩ := (List.eq_nil_or_concat' place).resolve_left hne
    dsimp only at hroot ⊢
    rw [List.dropLast_concat] at hroot
    unfold linkAvoidsIndexes
    split
    · rename_i target hnode
      have hname := h.name_ne directory name target hroot hnode
      simpa [hname, Option.bind_eq_some_iff] using
        fun other ho => h.target_ne directory name target other hroot hnode ho
    · rfl
  · intro h
    have hlink {directory : Location} {name target : String} (hroot : root <+: directory)
        (hnode : d.node? (directory ++ [name]) = some (.link target)) :
        name ≠ indexName ∧ ∀ place, (d.follow maxLinks directory [name]).target? = some place →
          place.getLast? ≠ some indexName := by
      have hentry : d.node? (directory ++ [name]) ≠ none := by simp [hnode]
      obtain ⟨node, hmem⟩ := (node?_ne_none_iff (by simp)).1 hentry
      have havoids := h _ hmem (by simp) (by simpa using hroot)
      simpa [linkAvoidsIndexes, hnode, Option.bind_eq_some_iff] using havoids
    exact ⟨fun directory name target hroot hnode => (hlink hroot hnode).1,
      fun directory name target place hroot hnode => (hlink hroot hnode).2 place⟩

instance (d : Disk) (root : Location) : Decidable (d.LinksAvoidIndexes root) :=
  decidable_of_iff _ linksAvoidIndexes_iff.symm

/-- What a place may hold depends on what stands there only. -/
lemma holdsOnlyFile_congr {d c : Disk} {place : Location} (h : c.node? place = d.node? place) :
    c.HoldsOnlyFile place ↔ d.HoldsOnlyFile place := by
  unfold HoldsOnlyFile
  rw [h]

/-- The working directory is no file. -/
lemma HoldsOnlyFile.ne_nil {d : Disk} {place : Location} (h : d.HoldsOnlyFile place) :
    place ≠ [] := by
  rintro rfl
  obtain ⟨content, hcontent⟩ := h .directory (node?_nil d)
  simp at hcontent

/-- Links below a place avoid indexes if those below a place above it do. -/
lemma LinksAvoidIndexes.mono {d : Disk} {root place : Location} (h : d.LinksAvoidIndexes root)
    (hp : root <+: place) : d.LinksAvoidIndexes place where
  name_ne directory name target hd := h.name_ne directory name target (hp.trans hd)
  target_ne directory name target other hd := h.target_ne directory name target other (hp.trans hd)

/-! ## Disks that differ in regular files -/

namespace EqOffFiles

variable {d c : Disk}

lemma refl (d : Disk) : d.EqOffFiles d := fun _ => Or.inl rfl

lemma symm (h : d.EqOffFiles c) : c.EqOffFiles d := fun place =>
  (h place).imp Eq.symm And.symm

/-- A regular file or nothing stands at the same places. -/
lemma holdsOnlyFile_iff (h : d.EqOffFiles c) {place : Location} :
    d.HoldsOnlyFile place ↔ c.HoldsOnlyFile place := by
  rcases h place with heq | ⟨hd, hc⟩
  · exact holdsOnlyFile_congr heq
  · exact iff_of_true hd hc

/-- Disks that agree with a third one off regular files agree with each other so. -/
lemma trans {e : Disk} (h : d.EqOffFiles c) (h' : c.EqOffFiles e) : d.EqOffFiles e := by
  intro place
  rcases h place with hdc | ⟨hd, hc⟩
  · exact (h' place).imp hdc.trans fun ⟨hc, he⟩ => ⟨h.holdsOnlyFile_iff.2 hc, he⟩
  · exact Or.inr ⟨hd, h'.holdsOnlyFile_iff.1 hc⟩

/-- A disk with other bytes in a file, which may be new, differs in nothing else. -/
lemma of_set {place : Location} (content : ByteArray) (hd : d.HoldsOnlyFile place) :
    d.EqOffFiles (d.set place (.file content)) := by
  intro other
  by_cases ho : other = place
  · subst ho
    refine Or.inr ⟨hd, fun node hnode => ⟨content, ?_⟩⟩
    rw [node?_set d hd.ne_nil, if_pos rfl] at hnode
    exact (Option.some.inj hnode).symm
  · exact Or.inl (by rw [node?_set d hd.ne_nil, if_neg ho])

/-- Whatever is no regular file is the same, under any name. -/
lemma node?_eq_of_not_file (h : d.EqOffFiles c) {place : Location} {node : Node}
    (hd : d.node? place = some node) (hf : ∀ content, node ≠ .file content) :
    c.node? place = some node := by
  rcases h place with heq | ⟨hfile, -⟩
  · rw [← heq, hd]
  · obtain ⟨content, rfl⟩ := hfile node hd
    exact absurd rfl (hf content)

/-- A walk without links comes to the same link on both disks. -/
lemma stride_of_link (h : d.EqOffFiles c) {origin : Location} {target : String}
    {steps left : List String} :
    ∀ {directory : Location}, d.stride directory steps = .link origin target left →
      c.stride directory steps = .link origin target left := by
  induction steps with
  | nil =>
    intro directory hs
    simp [stride] at hs
  | cons step steps ih =>
    intro directory hs
    by_cases hn : IsName step
    · rw [stride_cons hn] at hs ⊢
      cases hnode : d.node? (directory ++ [step]) with
      | none => simp [hnode] at hs
      | some node =>
        cases node with
        | directory =>
          rw [h.node?_eq_of_not_file hnode (by simp)]
          simp only [hnode] at hs ⊢
          exact ih hs
        | link text =>
          rw [h.node?_eq_of_not_file hnode (by simp)]
          simpa only [hnode] using hs
        | file content => simp [hnode] at hs
        | pipe => simp [hnode] at hs
    · rw [stride_cons_of_not_isName hn] at hs ⊢
      exact ih hs

/-- A walk without links that ends where something could be written ends there on both disks. -/
lemma stride_of_target? (h : d.EqOffFiles c) {place : Location} {outcome : Resolution}
    (ht : outcome.target? = some place) {steps : List String} :
    ∀ {directory : Location}, d.stride directory steps = .arrived outcome →
      ∃ other, c.stride directory steps = .arrived other ∧ other.target? = some place := by
  induction steps with
  | nil =>
    intro directory hs
    exact ⟨outcome, by simpa [stride] using hs, ht⟩
  | cons step steps ih =>
    intro directory hs
    by_cases hn : IsName step
    · rw [stride_cons hn] at hs
      rw [stride_cons hn]
      rcases h (directory ++ [step]) with heq | ⟨hd, hc⟩
      · rw [← heq]
        cases hnode : d.node? (directory ++ [step]) with
        | none => exact ⟨outcome, by simpa only [hnode] using hs, ht⟩
        | some node =>
          cases node with
          | directory =>
            simp only [hnode] at hs ⊢
            exact ih hs
          | link text => simp [hnode] at hs
          | file content => exact ⟨outcome, by simpa only [hnode] using hs, ht⟩
          | pipe => exact ⟨outcome, by simpa only [hnode] using hs, ht⟩
      · -- a file can be written or read there, whether it is there already or not
        have hplace (e : Disk) (he : e.HoldsOnlyFile (directory ++ [step])) {r : Resolution} :
            e.stride directory (step :: steps) = .arrived r → r.target? = some place →
              steps = [] ∧ place = directory ++ [step] := by
          intro hr hrt
          rw [stride_cons hn] at hr
          cases hnode : e.node? (directory ++ [step]) with
          | none =>
            simp only [hnode, Stride.arrived.injEq] at hr
            subst hr
            split_ifs at hrt with h₁ h₂ <;> simp_all [Resolution.target?]
          | some node =>
            obtain ⟨content, rfl⟩ := he node hnode
            simp only [hnode, Stride.arrived.injEq] at hr
            subst hr
            split_ifs at hrt with h₁ <;> simp_all [Resolution.target?]
        obtain ⟨rfl, rfl⟩ := hplace d hd (by rw [stride_cons hn]; exact hs) ht
        cases hnode : c.node? (directory ++ [step]) with
        | none => exact ⟨_, rfl, rfl⟩
        | some node =>
          obtain ⟨content, rfl⟩ := hc node hnode
          exact ⟨_, rfl, rfl⟩
    · rw [stride_cons_of_not_isName hn] at hs
      rw [stride_cons_of_not_isName hn]
      exact ih hs

/-- A walk without links that ends at a directory, or at what is the same on both disks, ends there
on both. -/
lemma stride_of_found (h : d.EqOffFiles c) {place : Location} {node : Node}
    (hp : node = .directory ∨ c.node? place = d.node? place) {steps : List String} :
    ∀ {directory : Location}, d.stride directory steps = .arrived (.found place node) →
      c.stride directory steps = .arrived (.found place node) := by
  induction steps with
  | nil =>
    intro directory hs
    simpa [stride] using hs
  | cons step steps ih =>
    intro directory hs
    by_cases hn : IsName step
    · rw [stride_cons hn] at hs ⊢
      cases hnode : d.node? (directory ++ [step]) with
      | none =>
        simp only [hnode, Stride.arrived.injEq] at hs
        split_ifs at hs
      | some found =>
        have hc : c.node? (directory ++ [step]) = some found := by
          rcases hfile : found with content | _ | target | _
          · -- a regular file ends the way, so that it is what the path leads to
            subst hfile
            simp only [hnode, Stride.arrived.injEq] at hs
            split_ifs at hs
            simp only [Resolution.found.injEq] at hs
            obtain ⟨rfl, rfl⟩ := hs
            rcases hp with hp | hp
            · simp at hp
            · rw [hp, hnode]
          all_goals exact h.node?_eq_of_not_file (hfile ▸ hnode) (by simp)
        cases found with
        | directory =>
          simp only [hnode, hc] at hs ⊢
          exact ih hs
        | link text => simp [hnode] at hs
        | file content => simpa only [hnode, hc] using hs
        | pipe => simpa only [hnode, hc] using hs
    · rw [stride_cons_of_not_isName hn] at hs ⊢
      exact ih hs

/-- What is handed over from one disk to the other at the end of each stride is handed over at the
end of each path, since both meet the same links. -/
lemma follow_of_stride (h : d.EqOffFiles c) {P : Resolution → Prop}
    (hP : ∀ {directory steps outcome}, d.stride directory steps = .arrived outcome → P outcome →
      ∃ other, c.stride directory steps = .arrived other ∧ P other)
    (links : ℕ) (directory : Location) (steps : List String) :
    P (d.follow links directory steps) → P (c.follow links directory steps) := by
  fun_induction d.follow links directory steps with
  | case1 links directory steps outcome hs =>
    intro hd
    obtain ⟨other, ho, hc⟩ := hP hs hd
    rwa [follow_of_arrived ho]
  | case2 directory steps origin target left hs =>
    rw [follow_zero_of_link (h.stride_of_link hs)]
    exact id
  | case3 directory steps origin target left hs links ht =>
    rw [follow_succ_of_link (h.stride_of_link hs), if_pos ht]
    exact id
  | case4 directory steps origin target left hs links ht start ih =>
    rw [follow_succ_of_link (h.stride_of_link hs), if_neg ht]
    exact ih

/-- A file is read or written at the same place through a path on both disks. -/
lemma follow_target? (h : d.EqOffFiles c) {place : Location} {links : ℕ} {directory : Location}
    {steps : List String} (ht : (d.follow links directory steps).target? = some place) :
    (c.follow links directory steps).target? = some place :=
  h.follow_of_stride (P := fun r => r.target? = some place) (fun hs ht => h.stride_of_target? ht hs)
    links directory steps ht

/-- A path that leads to a directory, or to what is the same on both disks, leads to it on both. -/
lemma follow_eq (h : d.EqOffFiles c) {place : Location} {node : Node}
    (hp : node = .directory ∨ c.node? place = d.node? place) {links : ℕ} {directory : Location}
    {steps : List String} (hf : d.follow links directory steps = .found place node) :
    c.follow links directory steps = .found place node :=
  h.follow_of_stride (P := fun r => r = .found place node)
    (fun hs ho => ⟨_, h.stride_of_found hp (ho ▸ hs), rfl⟩) links directory steps hf

end EqOffFiles

namespace EqOffIndexes

variable {d c e : Disk}

/-! ## Disks that differ in indexes -/

lemma refl (d : Disk) : d.EqOffIndexes d :=
  ⟨fun _ => Or.inl rfl, fun _ => rfl⟩

lemma symm (h : d.EqOffIndexes c) : c.EqOffIndexes d where
  node?_eq place := (h.node?_eq place).imp Eq.symm fun ⟨hi, hd, hc⟩ => ⟨hi, hc, hd⟩
  names_eq directory := (h.names_eq directory).symm

/-- Indexes are regular files. -/
lemma eqOffFiles (h : d.EqOffIndexes c) : d.EqOffFiles c := fun place =>
  (h.node?_eq place).imp_right And.right

/-- Disks that agree with a third one off indexes agree with each other so. -/
lemma trans (h : d.EqOffIndexes c) (h' : c.EqOffIndexes e) : d.EqOffIndexes e where
  node?_eq place := by
    rcases h.node?_eq place with hdc | ⟨hi, hd, hc⟩
    · exact (h'.node?_eq place).imp hdc.trans fun ⟨hi, hc, he⟩ =>
        ⟨hi, h.eqOffFiles.holdsOnlyFile_iff.2 hc, he⟩
    · exact Or.inr ⟨hi, hd, h'.eqOffFiles.holdsOnlyFile_iff.1 hc⟩
  names_eq directory := (h.names_eq directory).trans (h'.names_eq directory)

/-- A disk with another index in the place of a regular file or of nothing. -/
lemma of_set {place : Location} (content : ByteArray) (hi : place.getLast? = some indexName)
    (hd : d.HoldsOnlyFile place) : d.EqOffIndexes (d.set place (.file content)) := by
  have hne : place ≠ [] := by
    rintro rfl
    simp at hi
  refine ⟨fun other => ?_, fun directory => filter_childNames_congr rfl fun name hname => ?_⟩
  · by_cases ho : other = place
    · subst ho
      refine Or.inr ⟨hi, hd, fun node hnode => ?_⟩
      rw [node?_set d hne, if_pos rfl, Option.some.injEq] at hnode
      exact ⟨content, hnode.symm⟩
    · exact Or.inl (by rw [node?_set d hne, if_neg ho])
  · rw [node?_set d hne, if_neg]
    rintro rfl
    simp at hi
    simp [hi] at hname

/-! ## Nodes -/

/-- What does not stand under the name of an index is the same. -/
lemma node?_eq_of_ne (h : d.EqOffIndexes c) {place : Location}
    (hp : place.getLast? ≠ some indexName) : c.node? place = d.node? place := by
  rcases h.node?_eq place with heq | ⟨hi, -, -⟩
  · exact heq.symm
  · exact absurd hi hp

/-- Whatever is no regular file is the same, under any name. -/
lemma node?_eq_of_not_file (h : d.EqOffIndexes c) {place : Location} {node : Node}
    (hd : d.node? place = some node) (hf : ∀ content, node ≠ .file content) :
    c.node? place = some node :=
  h.eqOffFiles.node?_eq_of_not_file hd hf

/-- A regular file or nothing stands at the same places. -/
lemma holdsOnlyFile_iff (h : d.EqOffIndexes c) {place : Location} :
    d.HoldsOnlyFile place ↔ c.HoldsOnlyFile place :=
  h.eqOffFiles.holdsOnlyFile_iff

/-- Directories stand at the same places. -/
lemma node?_eq_directory_iff (h : d.EqOffIndexes c) {place : Location} :
    c.node? place = some .directory ↔ d.node? place = some .directory :=
  ⟨fun hc => h.symm.node?_eq_of_not_file hc (by simp),
    fun hd => h.node?_eq_of_not_file hd (by simp)⟩

/-- The names on the disk are as proper as before, since the name of an index is proper. -/
lemma hasNames (h : d.EqOffIndexes c) (hd : d.HasNames) : c.HasNames := by
  intro directory name hc
  by_cases hname : name = indexName
  · subst hname
    exact isName_indexName
  · refine hd directory name ?_
    rwa [← h.node?_eq_of_ne (by simpa using hname)]

/-! ## Paths -/

/-- A path that leads to a directory, or to something that is not named as an index, leads to the
same on both disks. -/
lemma resolve_eq (h : d.EqOffIndexes c) {p : Path} {place : Location} {node : Node}
    (hp : node = .directory ∨ place.getLast? ≠ some indexName)
    (hr : d.resolve p = .found place node) : c.resolve p = .found place node :=
  h.eqOffFiles.follow_eq (hp.imp_right h.node?_eq_of_ne) hr

/-- Links avoid indexes on one disk if they do so on the other. -/
lemma linksAvoidIndexes (h : d.EqOffIndexes c) {root : Location}
    (hd : d.LinksAvoidIndexes root) : c.LinksAvoidIndexes root where
  name_ne directory name target hroot hlink :=
    hd.name_ne directory name target hroot (h.symm.node?_eq_of_not_file hlink (by simp))
  target_ne directory name target place hroot hlink ht :=
    hd.target_ne directory name target place hroot (h.symm.node?_eq_of_not_file hlink (by simp))
      (h.symm.eqOffFiles.follow_target? ht)

end EqOffIndexes

variable {d c : Disk}

/-- A path exists exactly if it leads to a place where something stands. -/
lemma pathExists_iff {p : Path} :
    d.pathExists p = true ↔ ∃ place node, d.resolve p = .found place node := by
  unfold pathExists
  cases d.resolve p <;> simp

/-- A path leads to a regular file exactly if it leads to a place where one stands. -/
lemma isFile_iff {p : Path} :
    d.isFile p = true ↔ ∃ place content, d.resolve p = .found place (.file content) := by
  unfold isFile
  constructor
  · intro h
    split at h
    · rename_i place content hr
      exact ⟨place, content, hr⟩
    · simp at h
  · rintro ⟨place, content, hr⟩
    rw [hr]

/-- A path leads to a directory exactly if it leads to a place with one. -/
lemma isDirectory_iff {p : Path} :
    d.isDirectory p = true ↔ ∃ place, d.resolve p = .found place .directory := by
  unfold isDirectory
  constructor
  · intro h
    split at h
    · rename_i place hr
      exact ⟨place, hr⟩
    · simp at h
  · rintro ⟨place, hr⟩
    rw [hr]

/-- Below the root of a run, a child that is no index leads to something that is no index. -/
lemma LinksAvoidIndexes.target_child_ne {root place : Location} {p : Path} {name : String}
    {other : Location} (h : d.LinksAvoidIndexes root) (hn : IsName name) (hne : name ≠ indexName)
    (hp : root <+: place) (hr : d.resolve p = .found place .directory)
    (ht : (d.resolve (p.child name)).target? = some other) : other.getLast? ≠ some indexName := by
  by_cases hlink : ∃ target, d.node? (place ++ [name]) = some (.link target)
  · obtain ⟨target, hlink⟩ := hlink
    obtain ⟨left, hleft, hfollow⟩ := exists_resolve_child hr
    rw [hfollow] at ht
    have hmore : d.follow maxLinks place [name] = d.follow left place [name] := by
      refine follow_of_le hleft fun hfault => ?_
      simp [hfault, Resolution.target?] at ht
    exact h.target_ne place name target other hp hlink (hmore ▸ ht)
  · have hplace : other = place ++ [name] := by
      rw [resolve_child hr hn (by simpa using hlink)] at ht
      split at ht <;> simpa [Resolution.target?, eq_comm] using ht
    simpa [hplace] using hne

/-- A regular file that a child leads to is the same on a disk that differs in its indexes. -/
lemma EqOffIndexes.resolve_child_eq {root place other : Location} {p : Path} {name : String}
    {node : Node} (h : d.EqOffIndexes c) (hd : d.LinksAvoidIndexes root) (hn : IsName name)
    (hne : name ≠ indexName) (hp : root <+: place) (hr : d.resolve p = .found place .directory)
    (ho : d.resolve (p.child name) = .found other node) :
    c.resolve (p.child name) = .found other node :=
  h.resolve_eq (Or.inr (hd.target_child_ne hn hne hp hr (by rw [ho]; rfl))) ho

/-- A scan sees the same entry under every name but that of an index. -/
lemma EqOffIndexes.entry?_eq {root place : Location} {p : Path} {name : String}
    (h : d.EqOffIndexes c) (hd : d.LinksAvoidIndexes root) (hn : IsName name)
    (hne : name ≠ indexName) (hp : root <+: place) (hr : d.resolve p = .found place .directory) :
    c.entry? p place name = d.entry? p place name := by
  have hfile : c.isFile (p.child name) = d.isFile (p.child name) := by
    rw [Bool.eq_iff_iff, isFile_iff, isFile_iff]
    constructor
    · rintro ⟨other, content, ho⟩
      exact ⟨other, content, h.symm.resolve_child_eq (h.linksAvoidIndexes hd) hn hne hp
        (h.resolve_eq (Or.inl rfl) hr) ho⟩
    · rintro ⟨other, content, ho⟩
      exact ⟨other, content, h.resolve_child_eq hd hn hne hp hr ho⟩
  unfold entry?
  rw [h.node?_eq_of_ne (by simpa using hne)]
  simp only [hfile]

/-- A source holds the same tree, or fails to be read in the same way, wherever its path leads to
the same file. -/
lemma parse_eq_of_resolve {p : Path} {version : Version} (h : c.resolve p = d.resolve p) :
    c.parse p version = d.parse p version := by
  unfold parse readText read
  rw [h]

/-! ## Reading and writing indexes -/

/-- What is read from the place of the index of a directory, unless a link stands there. -/
lemma read_index_eq {p : Path} {place : Location} (hr : d.resolve p = .found place .directory)
    (hl : ∀ target, d.node? (place ++ [indexName]) ≠ some (.link target)) :
    d.read (p.child indexName) =
      match d.node? (place ++ [indexName]) with
      | some (.file content) => .ok content
      | some .directory => .error .isDirectory
      | some _ => .ok ByteArray.empty
      | none => .error .notFound := by
  unfold read
  rw [resolve_child hr isName_indexName hl]
  cases hnode : d.node? (place ++ [indexName]) with
  | none => rfl
  | some node => cases node <;> rfl

/-- The disk with a text as the regular file at a place; anything but a regular file stays. -/
def putIndex (d : Disk) (place : Location) (text : String) : Disk :=
  match d.node? place with
  | none | some (.file _) => d.set place (.file text.toUTF8)
  | some _ => d

/-- What is no regular file stays where it is. -/
lemma putIndex_of_not_holdsOnlyFile {c : Disk} {place : Location} (h : ¬ c.HoldsOnlyFile place)
    (text : String) : c.putIndex place text = c := by
  unfold putIndex
  split
  · rename_i hnode
    exact absurd (by simp [HoldsOnlyFile, hnode]) h
  · rename_i content hnode
    exact absurd (by simp [HoldsOnlyFile, hnode]) h
  · rfl

/-- A regular file takes the place of another one or of nothing. -/
lemma putIndex_of_holdsOnlyFile {c : Disk} {place : Location} (h : c.HoldsOnlyFile place)
    (text : String) : c.putIndex place text = c.set place (.file text.toUTF8) := by
  unfold putIndex
  split
  · rfl
  · rfl
  · rename_i node hfile hnode
    obtain ⟨content, rfl⟩ := h node hnode
    exact absurd rfl (hfile content)

/-- Putting an index on a disk changes nothing but an index. -/
lemma EqOffIndexes.of_putIndex {c : Disk} {place : Location} (text : String)
    (hi : place.getLast? = some indexName) : c.EqOffIndexes (c.putIndex place text) := by
  by_cases h : c.HoldsOnlyFile place
  · rw [putIndex_of_holdsOnlyFile h]
    exact of_set _ hi h
  · rw [putIndex_of_not_holdsOnlyFile h]
    exact refl c

/-- What comes of writing the index of a directory, unless a link stands in its place. -/
lemma writeIndex_eq {p : Path} {place : Location} (statements : List Statement) (sort : Bool)
    (hr : d.resolve p = .found place .directory)
    (hl : ∀ target, d.node? (place ++ [indexName]) ≠ some (.link target)) :
    d.writeIndex (p.child indexName) statements sort =
      if d.node? (place ++ [indexName]) = some .directory then
        .error (.notWritten (p.child indexName) .isDirectory)
      else .ok (d.putIndex (place ++ [indexName]) (Index.render statements sort)) := by
  unfold writeIndex write putIndex
  rw [resolve_child hr isName_indexName hl]
  cases hnode : d.node? (place ++ [indexName]) with
  | none => rfl
  | some node =>
    cases node with
    | link target => exact absurd hnode (hl target)
    | file content => rfl
    | directory => rfl
    | pipe => rfl

end Disk

end PackageIndex
