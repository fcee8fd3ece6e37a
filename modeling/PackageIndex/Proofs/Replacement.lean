import PackageIndex.Proofs.ValidIndexes
import PackageIndex.Proofs.Walks

/-!
# An index is written as a whole or not at all

An index is written through whatever links its path goes.  `writeIndex_replaces_or_fails` says for
every path which of two things happens.  If the path leads to a regular file, or to a place in a
directory where nothing stands, then that file holds the text of the index afterwards and nothing
else has changed.  Otherwise writing fails with a failure about the path, and nothing has changed.

Where a path leads is what the system makes of it.  It follows forty links and no more, and behind a
name that a slash follows it expects a directory.  `writeIndex_fails_farDisk` shows both: a chain of
more links is not followed although it ends at a file, and neither is a link that a slash follows
in the target of another one.
-/

namespace PackageIndex

namespace Disk

variable {d c : Disk} {p : Path} {place : Location} {statements : List Statement} {sort : Bool}

/-! ## Places of files -/

/-- A path leads to a place where a regular file stands or can be made. -/
def LeadsToFile (d : Disk) (p : Path) (place : Location) : Prop :=
  (∃ content, d.LeadsTo p (.found place (.file content))) ∨ d.LeadsTo p (.vacant place false)

/-- A link is followed from the top or from the directory that it stands in. -/
lemma linkOrigin_cases (directory : Location) (target : String) :
    linkOrigin directory target = [] ∨ linkOrigin directory target = directory := by
  unfold linkOrigin
  split_ifs
  · exact Or.inl rfl
  · exact Or.inr rfl

/-- A walk only passes through directories, so that it ends in one. -/
lemma HoldsDirectory.of_walk {n : ℕ} {directory : Location} {steps : List String}
    {outcome : Resolution} (h : d.HoldsDirectory directory)
    (hw : d.Walk n directory steps outcome) (ht : outcome.target? = some place) :
    d.HoldsDirectory place.dropLast := by
  induction hw with
  | @stop directory =>
    obtain rfl : directory = place := by simpa [Resolution.target?] using ht
    exact h.mono (List.dropLast_prefix directory)
  | stay _ _ ih => exact ih h ht
  | @up n directory steps outcome _ ih => exact ih (h.mono (List.dropLast_prefix directory)) ht
  | enter _ hnode _ ih => exact ih (h.child hnode) ht
  | @link n directory step steps outcome target _ _ _ _ ih =>
    refine ih ?_ ht
    rcases linkOrigin_cases directory target with hroot | hsame
    · rw [hroot]
      exact holdsDirectory_nil d
    · rw [hsame]
      exact h
  | @arrive directory step node | @vacant directory step =>
    obtain rfl : directory ++ [step] = place := by simpa [Resolution.target?] using ht
    rwa [List.dropLast_concat]
  | emptyLink | block | vacantDirectory | miss => simp [Resolution.target?] at ht

/-- The file stands in a directory or will stand in one. -/
lemma LeadsToFile.holdsDirectory (h : d.LeadsToFile p place) :
    d.HoldsDirectory place.dropLast := by
  rcases h with ⟨content, n, -, hw⟩ | ⟨n, -, hw⟩
  · exact (holdsDirectory_nil d).of_walk hw rfl
  · exact (holdsDirectory_nil d).of_walk hw rfl

/-! ## Writing -/

/-- What is written through a path to a file replaces it or is new there. -/
lemma LeadsToFile.write_eq (h : d.LeadsToFile p place) (content : ByteArray) :
    d.write p content = .ok (d.set place (.file content)) := by
  unfold write
  rcases h with ⟨old, h⟩ | h
  · rw [(leadsTo_iff.1 h).1]
  · rw [(leadsTo_iff.1 h).1]

/-- Whatever is written replaces one file. -/
lemma LeadsToFile.of_write_ok {content : ByteArray} (h : d.LeadsToFile p place)
    (hw : d.write p content = .ok c) : c.LeadsTo p (.found place (.file content)) ∧
      c.node? place = some (.file content) ∧
      (∀ other, other ≠ place → c.node? other = d.node? other) ∧ c.mentions = d.mentions := by
  have htarget : (d.resolve p).target? = some place := by
    rcases h with ⟨old, h⟩ | h
    · rw [(leadsTo_iff.1 h).1]
      rfl
    · rw [(leadsTo_iff.1 h).1]
      rfl
  have hpipe : ∀ other, d.resolve p ≠ .found other .pipe := by
    intro other hother
    rcases h with ⟨old, h⟩ | h
    · simp [(leadsTo_iff.1 h).1] at hother
    · simp [(leadsTo_iff.1 h).1] at hother
  rcases eq_or_exists_of_write_ok hw with ⟨-, other, hother⟩ | ⟨other, hother, hdir, hfile, rfl⟩
  · exact absurd hother (hpipe other)
  obtain rfl : place = other := Option.some.inj (htarget.symm.trans hother)
  have hset := node?_set d hfile.ne_nil (.file content)
  have hnode : (d.set place (.file content)).node? place = some (.file content) := by
    rw [hset, if_pos rfl]
  refine ⟨?_, hnode, fun other hne => by rw [hset, if_neg hne], rfl⟩
  rw [leadsTo_iff]
  exact ⟨(EqOffFiles.of_set content hfile).resolve_eq_file htarget hdir hnode, by simp⟩

/-- Nothing can be written where no regular file stands or can be made. -/
lemma exists_fault_of_not_leadsToFile (h : ∀ place, ¬ d.LeadsToFile p place)
    (hpipe : ∀ place, ¬ d.LeadsTo p (.found place .pipe)) (content : ByteArray) :
    ∃ fault, d.write p content = .error fault := by
  have hleads {outcome : Resolution} (hr : d.resolve p = outcome)
      (hne : outcome ≠ .fault .tooManyLinks) : d.LeadsTo p outcome := leadsTo_iff.2 ⟨hr, hne⟩
  unfold write
  cases hr : d.resolve p with
  | found place node =>
    cases node with
    | directory => exact ⟨_, rfl⟩
    | file old => exact absurd (Or.inl ⟨old, hleads hr (by simp)⟩) (h place)
    | link target => exact absurd hr (resolve_ne_link p place target)
    | pipe => exact absurd (hleads hr (by simp)) (hpipe place)
  | vacant place asDirectory =>
    cases asDirectory with
    | false => exact absurd (Or.inr (hleads hr (by simp))) (h place)
    | true => exact ⟨_, rfl⟩
  | fault f => exact ⟨_, rfl⟩

/-- An index is written if its text is. -/
lemma writeIndex_of_write_ok (h : d.write p (Index.render statements sort).toUTF8 = .ok c) :
    d.writeIndex p statements sort = .ok c := by
  unfold writeIndex
  rw [h]

/-- An index fails to be written if its text does, with the path as it was given. -/
lemma writeIndex_of_write_error {fault : Fault}
    (h : d.write p (Index.render statements sort).toUTF8 = .error fault) :
    d.writeIndex p statements sort = .error (.notWritten p fault) := by
  unfold writeIndex
  rw [h]

end Disk

/-- A directory whose index cannot be written is left as it is, and so is everything else. -/
lemma Run.run_finishDirectory_of_error {config : Config} {directory : Path}
    {statements : List Statement} {st : Progress} {f : Failure}
    (h : st.disk.writeIndex (directory.child indexName) statements config.sort = .error f)
    (hne : statements ≠ []) :
    (finishDirectory config directory statements).run st = (.error f, st) := by
  have hwrites : (! statements.isEmpty) = true := by simpa using hne
  unfold finishDirectory
  rw [if_pos hwrites, run_bind, run_get]
  simp only [run_bind, run_mk_pure, h]

namespace Disk

/-- What comes of writing an index to a path that does not lead to a pipe.  If the path leads to a
regular file, or to a place in an existing directory where nothing stands, through links or without,
then the index is written: there is a regular file with its text, whatever stood there before, and
nothing else has changed, not even the order of listings.  In all other cases writing fails with a
failure about the path as it was given, and a run in which that happens is where it was before. -/
theorem writeIndex_replaces_or_fails (d : Disk) (p : Path) (statements : List Statement)
    (sort : Bool) (hpipe : ∀ place, ¬ d.LeadsTo p (.found place .pipe)) :
    let text := (Index.render statements sort).toUTF8
    (∀ place, d.LeadsToFile p place → d.HoldsDirectory place.dropLast ∧
      ∃ c, d.writeIndex p statements sort = .ok c ∧ c.LeadsTo p (.found place (.file text)) ∧
        c.node? place = some (.file text) ∧
        (∀ other, other ≠ place → c.node? other = d.node? other) ∧ c.mentions = d.mentions) ∧
    ((∀ place, ¬ d.LeadsToFile p place) →
      ∃ fault, d.writeIndex p statements sort = .error (.notWritten p fault)) ∧
    ∀ (config : Config) (directory : Path) (st : Progress) (f : Failure), config.sort = sort →
      p = directory.child indexName → st.disk = d → statements ≠ [] →
      d.writeIndex p statements sort = .error f →
      (finishDirectory config directory statements).run st = (.error f, st) := by
  intro text
  refine ⟨fun place h => ⟨h.holdsDirectory, ?_⟩, fun h => ?_, ?_⟩
  · have hw : d.write p text = .ok (d.set place (.file text)) := h.write_eq text
    exact ⟨_, writeIndex_of_write_ok hw, h.of_write_ok hw⟩
  · obtain ⟨fault, hfault⟩ := exists_fault_of_not_leadsToFile h hpipe text
    exact ⟨fault, writeIndex_of_write_error hfault⟩
  · rintro config directory st f rfl rfl rfl hne hf
    exact Run.run_finishDirectory_of_error hf hne

/-- The name of the link with a number. -/
def chainName (i : ℕ) : String := "l" ++ toString i

/-- A file, a chain of forty-one links that ends at the file, and a link to the file with another
link to it that has a slash at the end of its target. -/
def farDisk : Disk where
  entries := ([chainName 0], .file "x = 1\n".toUTF8) ::
    (List.range 41).map (fun i => ([chainName (i + 1)], .link (chainName i))) ++
    [(["s"], .link (chainName 0)), (["t"], .link "s/")]
  mentions := []

/-- Forty links are followed, and the text of the index replaces the file that they lead to. -/
theorem writeIndex_replaces_or_fails_farDisk :
    let p : Path := ⟨"", [chainName 40]⟩
    let text := (Index.render [.module "a"] true).toUTF8
    (∀ place, ¬ farDisk.LeadsTo p (.found place .pipe)) ∧
      farDisk.LeadsToFile p [chainName 0] ∧
      ∃ c, farDisk.writeIndex p [.module "a"] true = .ok c ∧
        c.node? [chainName 0] = some (.file text) ∧
        ∀ other, other ≠ [chainName 0] → c.node? other = farDisk.node? other := by
  intro p text
  have hr : farDisk.resolve p = .found [chainName 0] (.file "x = 1\n".toUTF8) := by decide +kernel
  have hfile : farDisk.LeadsToFile p [chainName 0] :=
    Or.inl ⟨_, leadsTo_iff.2 ⟨hr, by simp⟩⟩
  have hpipe : ∀ place, ¬ farDisk.LeadsTo p (.found place .pipe) := by
    intro place hplace
    have hpipe := (leadsTo_iff.1 hplace).1
    simp [hr] at hpipe
  obtain ⟨hreplaces, -, -⟩ := writeIndex_replaces_or_fails farDisk p [.module "a"] true hpipe
  obtain ⟨-, c, hok, -, hnode, hother, -⟩ := hreplaces _ hfile
  exact ⟨hpipe, hfile, c, hok, hnode, hother⟩

/-- A chain of forty-one links ends at the file, but nothing is written through it.  Neither is
anything written through a link whose target is a link with a slash behind it, although the target
of that one is the file. -/
theorem writeIndex_fails_farDisk :
    let far : Path := ⟨"", [chainName 41]⟩
    let slashed : Path := ⟨"", ["t"]⟩
    (∃ n, farDisk.Walk n [] far.parts (.found [chainName 0] (.file "x = 1\n".toUTF8))) ∧
      farDisk.writeIndex far [.module "a"] true = .error (.notWritten far .tooManyLinks) ∧
      farDisk.node? slashed.parts = some (.link "s/") ∧
      farDisk.node? ["s"] = some (.link (chainName 0)) ∧
      farDisk.writeIndex slashed [.module "b"] true =
        .error (.notWritten slashed .isDirectory) := by
  intro far slashed
  refine ⟨?_, ?_, by decide +kernel, by decide +kernel, ?_⟩
  · have hfollow : farDisk.follow 41 [] far.parts =
        .found [chainName 0] (.file "x = 1\n".toUTF8) := by
      decide +kernel
    have hfew : farDisk.follow 41 [] far.parts ≠ .fault .tooManyLinks := by simp [hfollow]
    obtain ⟨n, -, hw⟩ := exists_walk_of_follow hfew
    exact ⟨n, hfollow ▸ hw⟩
  · apply writeIndex_of_write_error
    rfl
  · apply writeIndex_of_write_error
    rfl

end Disk

end PackageIndex
