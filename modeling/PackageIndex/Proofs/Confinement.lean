import PackageIndex.Proofs.Invariants

/-!
# What a run can change

Links may lead anywhere, also from where an index belongs to a file with another name, and a run may
fail at any step.  `generate_confined` says what holds of every run nevertheless.  Whatever is no
regular file stays, nothing but regular files is made, and none is removed.  A file changes only if
it stands where the index of a directory belongs, or if a link that stands there leads to it.

`Run.Keeps` says that a step of a run keeps a property of how far the run is, whether it returns or
fails.  The property that a whole visit keeps is `Disk.Confines`, which compares the disk as it is
now with the disk before the run.  Both differ only in regular files, so that a path that leads to a
directory now did so before (`Confines.resolve_eq`), and an index is written to the place that its
path led to before (`Confines.of_writeIndex`).
-/

namespace PackageIndex

namespace Run

variable {α : Type} {P : Progress → Prop}

/-- A step keeps a property of how far a run is, whether it returns or fails. -/
def Keeps (P : Progress → Prop) (step : Run α) : Prop := ∀ st, P st → P (step.run st).2

/-- A step keeps the property, whatever it ensures of its result. -/
lemma Ensures.keeps {Q : α → Prop} {step : Run α} (h : Ensures P Q step) : Keeps P step :=
  fun st hst => (h st hst).1

end Run

namespace Disk

variable {d : Disk} {config : Config}

/-! ## Files that are written -/

/-- What is written through a path goes to a regular file, which may be new, unless a pipe takes
it. -/
lemma eq_or_exists_of_write_ok {c : Disk} {p : Path} {content : ByteArray}
    (h : d.write p content = .ok c) :
    (c = d ∧ ∃ place, d.resolve p = .found place .pipe) ∨
      ∃ place, (d.resolve p).target? = some place ∧ d.resolve p ≠ .found place .directory ∧
        d.HoldsOnlyFile place ∧ c = d.set place (.file content) := by
  have hagrees : d.AgreesWith (d.resolve p) := d.agreesWith_follow _ _ _
  unfold write at h
  split at h
  · rename_i place old hr
    rw [hr] at hagrees
    have hnode : d.node? place = some (.file old) := by simpa [AgreesWith] using hagrees
    refine Or.inr ⟨place, by rw [hr]; rfl, by simp [hr], fun node hn => ⟨old, ?_⟩,
      (Except.ok.inj h).symm⟩
    simpa [hnode, eq_comm] using hn
  · rename_i place hr
    rw [hr] at hagrees
    have hnode : d.node? place = none := hagrees
    exact Or.inr ⟨place, by rw [hr]; rfl, by simp [hr], fun node hn => by simp [hnode] at hn,
      (Except.ok.inj h).symm⟩
  · simp at h
  · simp at h
  · rename_i place node hfile hdir hr
    refine Or.inl ⟨(Except.ok.inj h).symm, place, ?_⟩
    cases node with
    | pipe => exact hr
    | link target => exact absurd hr (resolve_ne_link _ _ _)
    | file old => exact absurd rfl (hfile old)
    | directory => exact absurd rfl hdir
  · simp at h

/-- An index is written as its text. -/
lemma write_of_writeIndex {c : Disk} {p : Path} {statements : List Statement} {sort : Bool}
    (h : d.writeIndex p statements sort = .ok c) :
    d.write p (Index.render statements sort).toUTF8 = .ok c := by
  unfold writeIndex at h
  split at h
  · rename_i disk hok
    rw [hok, Except.ok.inj h]
  · simp at h

/-- The path of an index that can be written ends where the index belongs, unless a link stands
there. -/
lemma eq_indexPlace_of_target? {p : Path} {place other : Location}
    (hr : d.resolve p = .found place .directory)
    (hlink : ∀ target, d.node? (place ++ [indexName]) ≠ some (.link target))
    (ht : (d.resolve (p.child indexName)).target? = some other) : other = place ++ [indexName] := by
  rw [resolve_child hr isName_indexName hlink] at ht
  split at ht <;> simpa [Resolution.target?, eq_comm] using ht

/-! ## Confinement -/

/-- How far a run from a disk may be: it has written indexes of directories, and nothing has changed
but regular files that these indexes lead to. -/
structure Confines (d : Disk) (config : Config) (st : Progress) : Prop where
  written_eq : ∀ p ∈ st.written, ∃ directory place,
    p = directory.child indexName ∧ d.resolve directory = .found place .directory
  node?_eq : ∀ place, st.disk.node? place = d.node? place ∨
    d.HoldsOnlyFile place ∧ (∃ content, st.disk.node? place = some (.file content)) ∧
      ∃ p ∈ st.written, (d.resolve p).target? = some place

namespace Confines

variable {st : Progress}

/-- A run that has done nothing is confined. -/
lemma start (d : Disk) (config : Config) : d.Confines config (Progress.start d) where
  written_eq _ hp := by simp [Progress.start] at hp
  node?_eq _ := Or.inl rfl

/-- A confined run has changed nothing but regular files. -/
lemma eqOffFiles (h : d.Confines config st) : st.disk.EqOffFiles d := by
  intro place
  rcases h.node?_eq place with heq | ⟨hd, ⟨content, hnode⟩, -⟩
  · exact Or.inl heq
  · exact Or.inr ⟨fun node hn => ⟨_, Option.some.inj (hn.symm.trans hnode)⟩, hd⟩

/-- A path that leads to a directory now did so before the run. -/
lemma resolve_eq (h : d.Confines config st) {p : Path} {place : Location}
    (hr : st.disk.resolve p = .found place .directory) : d.resolve p = .found place .directory :=
  h.eqOffFiles.follow_eq (Or.inl rfl) hr

/-- What is told does not matter. -/
lemma of_notices (h : d.Confines config st) (notices : List Notice) :
    d.Confines config { st with notices } :=
  ⟨h.written_eq, h.node?_eq⟩

/-- The index of a directory is written where its path led to before the run. -/
lemma of_writeIndex (h : d.Confines config st) {p : Path} {place : Location} {c : Disk}
    {statements : List Statement} (hr : d.resolve p = .found place .directory)
    (hw : st.disk.writeIndex (p.child indexName) statements config.sort = .ok c) :
    d.Confines config { st with disk := c, written := st.written ++ [p.child indexName] } where
  written_eq q hq := by
    rcases List.mem_append.1 hq with hq | hq
    · exact h.written_eq q hq
    · exact ⟨p, place, List.mem_singleton.1 hq, hr⟩
  node?_eq other := by
    have hbefore : st.disk.node? other = d.node? other ∨
        d.HoldsOnlyFile other ∧ (∃ content, st.disk.node? other = some (.file content)) ∧
          ∃ q ∈ st.written ++ [p.child indexName], (d.resolve q).target? = some other :=
      (h.node?_eq other).imp_right fun ⟨hd, hfile, q, hq, ht⟩ =>
        ⟨hd, hfile, q, List.mem_append_left _ hq, ht⟩
    rcases eq_or_exists_of_write_ok (write_of_writeIndex hw) with
      ⟨rfl, -⟩ | ⟨target, ht, -, hfile, rfl⟩
    · exact hbefore
    -- the index went to a file that may have been new, and to no other place
    have hne := hfile.ne_nil
    by_cases ho : other = target
    · subst ho
      have hd : d.HoldsOnlyFile other := h.eqOffFiles.holdsOnlyFile_iff.1 hfile
      refine Or.inr ⟨hd, ⟨(Index.render statements config.sort).toUTF8, ?_⟩, p.child indexName,
        by simp, h.eqOffFiles.follow_target? ht⟩
      rw [node?_set _ hne, if_pos rfl]
    · rw [node?_set _ hne, if_neg ho]
      exact hbefore

end Confines

/-! ## Visits -/

/-- Every event of a run keeps it confined.  What is a directory when it is visited was the same one
before the run. -/
lemma invariant_confines (d : Disk) (config : Config) :
    Run.Invariant config (d.Confines config) (fun p place => d.resolve p = .found place .directory)
      fun _ _ => True where
  directory h hr := h.resolve_eq hr
  nil _ := trivial
  append _ _ _ := trivial
  source _ _ _ := trivial
  child _ _ _ _ _ _ _ := trivial
  tell _ h := h.of_notices _
  write h hr _ _ hw := h.of_writeIndex hr hw

/-- Whatever a visit comes to, and however deep it may go, it changes only files that indexes lead
to. -/
lemma keeps_visit (depth : ℕ) (p : Path) :
    Run.Keeps (d.Confines config) (visit config depth p) :=
  ((invariant_confines d config).ensures_visit depth p).keeps

end Disk

/-! ## Whole runs -/

/-- A run writes indexes of directories, whether it returns or fails and wherever links lead.
Everything else stays as it was, apart from regular files, and none of them is removed.  Each file
that changes or is new stands where the index of a directory belongs, unless a link stands there;
then it is the file that the link leads to. -/
theorem generate_confined (config : Config) (d : Disk) :
    let after := (generate config d).2
    (∀ p ∈ after.written, ∃ directory place,
      p = directory.child indexName ∧ d.resolve directory = .found place .directory) ∧
    ∀ other, after.disk.node? other = d.node? other ∨
      d.HoldsOnlyFile other ∧ (∃ content, after.disk.node? other = some (.file content)) ∧
      ∃ directory place, d.resolve directory = .found place .directory ∧
        (d.resolve (directory.child indexName)).target? = some other ∧
        (other = place ++ [indexName] ∨
          ∃ target, d.node? (place ++ [indexName]) = some (.link target)) := by
  intro after
  have hafter : d.Confines config after :=
    Disk.keeps_visit _ _ _ (Disk.Confines.start d config)
  refine ⟨hafter.written_eq, fun other => ?_⟩
  refine (hafter.node?_eq other).imp_right fun ⟨hd, hfile, p, hp, ht⟩ => ⟨hd, hfile, ?_⟩
  obtain ⟨directory, place, rfl, hr⟩ := hafter.written_eq p hp
  refine ⟨directory, place, hr, ht, ?_⟩
  by_cases hlink : ∃ target, d.node? (place ++ [indexName]) = some (.link target)
  · exact Or.inr hlink
  · exact Or.inl (Disk.eq_indexPlace_of_target? hr (not_exists.1 hlink) ht)

/-- A package with a link to its source where its index belongs. -/
def linkedDisk : Disk where
  entries := [(["p"], .directory), (["p", "a.py"], .file "x = 1\n".toUTF8),
    (["p", "__init__.py"], .link "a.py")]
  mentions := [["p"], ["p", "a.py"], ["p", "__init__.py"]]

/-- The run from the package with the link returns and has replaced the source by the index. -/
theorem generate_overwrites_linkedDisk :
    let source : Location := ["p", "a.py"]
    let after := (generate sampleConfig linkedDisk).2
    (generate sampleConfig linkedDisk).1 = .ok [.module "a", .member "a" "x"] ∧
      after.written = [⟨"", ["p", "__init__.py"]⟩] ∧
      source.getLast? ≠ some indexName ∧
      linkedDisk.node? source = some (.file "x = 1\n".toUTF8) ∧
      after.disk.node? source =
        some (.file (Index.render [.module "a", .member "a" "x"] true).toUTF8) ∧
      after.disk.node? source ≠ linkedDisk.node? source := by
  refine ⟨?_, ?_, ?_, ?_, ?_, ?_⟩ <;> decide +kernel

end PackageIndex
