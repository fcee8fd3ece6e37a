import PackageIndex.Proofs.Indexes

/-!
# Runs do not read indexes

What a run does depends neither on the indexes that it finds nor on those that it has written on the
way.  On two disks that agree off their indexes the same nodes are settled (`exists_settled`), and
`generate_history_free` concludes that the outcome, the notices and the indexes are the same.  The
disk that a run leaves behind is one of these disks, whether the run returned or failed: another run
from it changes nothing.
-/

namespace PackageIndex

variable {d c : Disk} {config : Config} {place : Location}

/-- Some nodes with which the plan begins are settled by the run from every disk that agrees with
the one planned for off its indexes. -/
theorem exists_settled (hn : d.HasNames) (hr : d.resolve config.root = .found place .directory)
    (hl : d.LinksAvoidIndexes place) :
    ∃ os outcome, os <+: (d.outline config.exclude ⟨config.root, place⟩).plan ∧
      (∀ p ∈ os, d.failure? config p = none) ∧ ∀ c, d.EqOffIndexes c →
        generate config c = (outcome, os.foldl (d.settle config) (Progress.start c)) := by
  refine ⟨_, _, List.takeWhile_prefix fun p => (d.failure? config p).isNone, fun p hp => ?_,
    fun c hc => generate_eq hn hr hl hc⟩
  simpa using List.mem_takeWhile_imp hp

/-- From two disks that agree in everything but their indexes, runs have the same outcome, tell the
same, write the same indexes and leave the same text in each of them.  A second run from where the
first one has ended, in whatever way, repeats it and leaves every place as it is. -/
theorem generate_history_free (hn : d.HasNames)
    (hr : d.resolve config.root = .found place .directory) (hl : d.LinksAvoidIndexes place)
    (h : d.EqOffIndexes c) :
    let first := generate config d
    let other := generate config c
    let second := generate config first.2.disk
    (other.1 = first.1 ∧ other.2.notices = first.2.notices ∧
      other.2.written = first.2.written ∧
      ∀ p ∈ first.2.written, ∃ content,
        first.2.disk.read p = .ok content ∧ other.2.disk.read p = .ok content) ∧
    second.1 = first.1 ∧ second.2.notices = first.2.notices ∧
      second.2.written = first.2.written ∧
      ∀ other, second.2.disk.node? other = first.2.disk.node? other := by
  intro first other second
  obtain ⟨os, outcome, hos, hnone, hrun⟩ := exists_settled hn hr hl
  have hbottomUp : Outline.BottomUp os :=
    (Disk.placed_outline d config.exclude _).bottomUp_plan.sublist hos.sublist
  have hfirst : first = _ := hrun d (Disk.EqOffIndexes.refl d)
  have hother : other = _ := hrun c h
  have hdisk : d.EqOffIndexes first.2.disk := by
    rw [hfirst]
    exact Disk.EqOffIndexes.foldl_settle (Disk.EqOffIndexes.refl d) os
  have hsecond : second = _ := hrun first.2.disk hdisk
  -- the outcome, what is told and what is written depend on the settled nodes only
  have hsame {c : Disk} {run : Except Failure (List Statement) × Progress}
      (hc : run = (outcome, os.foldl (d.settle config) (Progress.start c))) :
      run.1 = first.1 ∧ run.2.notices = first.2.notices ∧ run.2.written = first.2.written := by
    rw [hc, hfirst]
    refine ⟨rfl, ?_, ?_⟩
    · rw [Disk.notices_foldl_settle, Disk.notices_foldl_settle]
      rfl
    · rw [Disk.written_foldl_settle, Disk.written_foldl_settle]
      rfl
  obtain ⟨houtcome, hnotices, hwritten⟩ := hsame hother
  refine ⟨⟨houtcome, hnotices, hwritten, fun p hp => ?_⟩, ?_⟩
  · rw [hfirst, Disk.written_foldl_settle] at hp
    obtain ⟨s, hs, hsource, ho, rfl⟩ := (mem_written_iff hos).1 hp
    obtain ⟨hroot, hrs⟩ := hs.resolve hn hr
    rw [hfirst, hother]
    refine ⟨_, read_index_settled (Disk.EqOffIndexes.refl d) hl hroot hrs hsource hbottomUp ho
      (hnone _ ho), ?_⟩
    exact read_index_settled h hl hroot hrs hsource hbottomUp ho (hnone _ ho)
  · obtain ⟨houtcome', hnotices', hwritten'⟩ := hsame hsecond
    refine ⟨houtcome', hnotices', hwritten', fun place => ?_⟩
    rw [hsecond]
    exact Disk.node?_foldl_settle_again hbottomUp (by rw [hfirst]; rfl) place

/-- The small disk with one more index, which a run has not written. -/
def staleDisk : Disk := sampleDisk.set ["p", "q", "__init__.py"] (.file "z = 3\n".toUTF8)

/-- An index that is already there makes no difference to the run on the small disk. -/
theorem generate_history_free_staleDisk :
    (generate sampleConfig staleDisk).1 =
        .ok [.module "a", .member "a" "x", .module "q", .member "q" "b", .module "l"] ∧
      (generate sampleConfig staleDisk).2.written =
        [⟨"", ["p", "q", "__init__.py"]⟩, ⟨"", ["p", "__init__.py"]⟩] ∧
      ∀ other,
        (generate sampleConfig (generate sampleConfig sampleDisk).2.disk).2.disk.node? other =
          (generate sampleConfig sampleDisk).2.disk.node? other := by
  have hnone : sampleDisk.node? ["p", "q", "__init__.py"] = none := by decide +kernel
  have hfile : sampleDisk.HoldsOnlyFile ["p", "q", "__init__.py"] := by
    simp [Disk.HoldsOnlyFile, hnone]
  have hstale : sampleDisk.EqOffIndexes staleDisk := Disk.EqOffIndexes.of_set _ rfl hfile
  have hok : (generate sampleConfig sampleDisk).1 =
      .ok [.module "a", .member "a" "x", .module "q", .member "q" "b", .module "l"] := by
    decide +kernel
  have hwritten : (generate sampleConfig sampleDisk).2.written =
      [⟨"", ["p", "q", "__init__.py"]⟩, ⟨"", ["p", "__init__.py"]⟩] := by
    decide +kernel
  have hroot : sampleDisk.resolve sampleConfig.root = .found ["p"] .directory := by
    decide +kernel
  have hfree := generate_history_free (by decide +kernel) hroot (by decide +kernel) hstale
  dsimp only at hfree
  obtain ⟨⟨hsame, -, hsameWritten, -⟩, -, -, -, hagain⟩ := hfree
  exact ⟨hsame.trans hok, hsameWritten.trans hwritten, hagain⟩

end PackageIndex
