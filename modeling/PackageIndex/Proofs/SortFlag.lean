import PackageIndex.Proofs.Indexes
import PackageIndex.Proofs.Sections

/-!
# Sorting

Whether indexes are sorted is decided when their texts are made, and by nothing else in a run.
Sorting moves the lines of an index around: each line is there as often as in the index that keeps
the order of its statements (`Index.lines_render_perm`), even where names hold line feeds.

A run with the other choice works through the same plan.  `generate_withSort` says that it has the
same outcome, tells the same and writes the same indexes, with the same lines in each of them.
-/

namespace PackageIndex

/-- The pieces of a text between line feeds; behind a line feed at the end there is an empty one. -/
def Text.lines (text : String) : List String := (text.toList.splitOn '\n').map String.ofList

/-- The configuration with another choice whether indexes are sorted. -/
def Config.withSort (c : Config) (sort : Bool) : Config := { c with sort }

/-! ## Lines of texts -/

namespace Index

/-- A line feed ends the pieces of what stands before it. -/
lemma lines_append (first rest : String) :
    Text.lines (first ++ "\n" ++ rest) = Text.lines first ++ Text.lines rest := by
  have htext : (first ++ "\n" ++ rest).toList = first.toList ++ '\n' :: rest.toList := by
    simp
  rw [Text.lines, htext, List.splitOn_append_cons_self, List.map_append]
  rfl

/-- The lines of a text are those of the lines that it was made from. -/
lemma lines_unlines (ls : List String) :
    Text.lines (unlines ls) = ls.flatMap Text.lines ++ [""] := by
  induction ls with
  | nil => rfl
  | cons l ls ih => rw [unlines_cons, lines_append, ih, List.flatMap_cons, List.append_assoc]

example : Text.lines (unlines ["a", "b"]) = ["a", "b", ""] := by
  decide +kernel

/-! ## Lines of indexes -/

/-- Lists with the same members in another order keep the same members once. -/
lemma eraseDups_perm {α : Type*} [BEq α] [LawfulBEq α] {l l' : List α} (h : l.Perm l') :
    l.eraseDups.Perm l'.eraseDups := by
  refine (List.perm_ext_iff_of_nodup (Disk.nodup_eraseDups l) (Disk.nodup_eraseDups l')).2 ?_
  intro a
  rw [List.mem_eraseDups, List.mem_eraseDups, h.mem_iff]

/-- The lines of groups do not depend on the order of the pairs but for their own order. -/
lemma flatMap_groupLines_perm {pairs pairs' : List (String × String)} (h : pairs.Perm pairs') :
    ((groupPairs pairs).flatMap groupLines).Perm ((groupPairs pairs').flatMap groupLines) := by
  unfold groupPairs
  rw [List.flatMap_map, List.flatMap_map]
  refine List.Perm.flatMap (eraseDups_perm (h.map Prod.fst)) fun key _ => ?_
  have hattrs := ((h.filter fun p => p.1 == key).map Prod.snd).map fun attr => "    " ++ attr ++ ","
  exact (hattrs.append_right [")"]).cons _

/-- Sorting an index only moves its lines. -/
lemma lines_perm (statements : List Statement) :
    (lines statements true).Perm (lines statements false) := by
  have himports : (imports statements true).Perm (imports statements false) :=
    (imports_perm statements true).trans (imports_perm statements false).symm
  have hgroups : ((groups statements true).flatMap groupLines).Perm
      ((groups statements false).flatMap groupLines) :=
    flatMap_groupLines_perm
      ((members_perm statements true).trans (members_perm statements false).symm)
  have hlisting : (listing statements true).Perm (listing statements false) :=
    eraseDups_perm ((imported_perm statements true).trans (imported_perm statements false).symm)
  unfold lines
  exact ((((himports.map _).append_right _).append hgroups).append_right _).append_right _ |>.append
    (hlisting.map _) |>.append_right _

/-- The text of a sorted index has the same lines as that of the index that keeps the order of its
statements. -/
theorem lines_render_perm (statements : List Statement) :
    (Text.lines (render statements true)).Perm (Text.lines (render statements false)) := by
  rw [render, render, lines_unlines, lines_unlines]
  exact ((lines_perm statements).flatMap_right _).append_right _

end Index

/-! ## Runs -/

variable {d : Disk} {config : Config} {place : Location}

namespace Disk

/-- Sorting does not decide which work fails. -/
lemma failure?_withSort (d : Disk) (config : Config) (sort : Bool) :
    d.failure? (config.withSort sort) = d.failure? config := by
  funext p
  cases p <;> rfl

/-- Sorting does not change what is told. -/
lemma notice_withSort (d : Disk) (config : Config) (sort : Bool) :
    d.notice (config.withSort sort) = d.notice config := by
  funext p
  cases p <;> rfl

/-- What is read from the index of a settled directory has the same lines in both cases. -/
lemma read_index_withSort {os : List Outline} {s : Site} (hl : d.LinksAvoidIndexes place)
    (hroot : place <+: s.place) (hrs : d.resolve s.path = .found s.place .directory)
    (hsource : d.HasSource config.exclude s) (hos : Outline.BottomUp os)
    (ho : d.outline config.exclude s ∈ os)
    (hf : d.failure? config (d.outline config.exclude s) = none) :
    ∃ text : Bool → String,
      (∀ sort, (os.foldl (d.settle (config.withSort sort)) (Progress.start d)).disk.read
        (s.path.child indexName) = .ok (text sort).toUTF8) ∧
      (Text.lines (text true)).Perm (Text.lines (text false)) := by
  have hread (sort : Bool) : (os.foldl (d.settle (config.withSort sort))
      (Progress.start d)).disk.read (s.path.child indexName) =
        .ok (if d.node? (s.place ++ [indexName]) = some .pipe then ByteArray.empty
          else (Index.render (d.aggregated config s) sort).toUTF8) :=
    read_index_settled (EqOffIndexes.refl d) hl hroot hrs hsource hos ho
      (failure?_withSort d config sort ▸ hf)
  by_cases hpipe : d.node? (s.place ++ [indexName]) = some .pipe
  · refine ⟨fun _ => "", fun sort => ?_, List.Perm.refl _⟩
    rw [hread, if_pos hpipe]
    rfl
  · refine ⟨Index.render (d.aggregated config s), fun sort => ?_, Index.lines_render_perm _⟩
    rw [hread, if_neg hpipe]

end Disk

/-- Runs that sort and runs that do not settle the same nodes. -/
lemma exists_settled_withSort (hn : d.HasNames)
    (hr : d.resolve config.root = .found place .directory) (hl : d.LinksAvoidIndexes place) :
    ∃ os outcome, os <+: (d.outline config.exclude ⟨config.root, place⟩).plan ∧
      (∀ p ∈ os, d.failure? config p = none) ∧ ∀ sort, generate (config.withSort sort) d =
        (outcome, os.foldl (d.settle (config.withSort sort)) (Progress.start d)) := by
  obtain ⟨os, outcome, hos, hnone, hrun⟩ := exists_settled_of_same d config ⟨config.root, place⟩
  refine ⟨os, outcome, hos, hnone, fun sort => hrun hn hr hl rfl (fun p _ => ?_) rfl⟩
  rw [Disk.failure?_withSort]

/-- The visit of a source writes nothing. -/
lemma written_run_visitSource (p : Path) (st : Progress) :
    ((visitSource config p).run st).2.written = st.written := by
  unfold visitSource visitSource.liftExcept
  rw [Run.run_bind, Run.run_get]
  simp only [Run.run_bind, Run.run_mk_pure, Run.run_tell, Run.run_pure]
  cases st.disk.parse p config.version <;> rfl

/-- A run that does not start at a directory has nothing to sort. -/
lemma generate_withSort_of_not_isDirectory (h : d.isDirectory config.root = false) (sort : Bool) :
    generate (config.withSort sort) d = generate config d ∧ (generate config d).2.written = [] := by
  have hroot : (config.withSort sort).root = config.root := rfl
  unfold generate visit
  simp only [Run.run_bind, Run.run_get, hroot, Progress.start, h, Bool.false_eq_true, if_false]
  split_ifs
  · exact ⟨rfl, rfl⟩
  · exact ⟨rfl, written_run_visitSource _ _⟩
  · exact ⟨rfl, rfl⟩

/-- Runs that differ in whether they sort have the same outcome, tell the same and write the same
indexes, and each of these has the same lines in both, as the text of any statements has. -/
theorem generate_withSort (config : Config) (hn : d.HasNames)
    (hl : ∀ place, d.resolve config.root = .found place .directory → d.LinksAvoidIndexes place) :
    let sorted := generate (config.withSort true) d
    let listed := generate (config.withSort false) d
    sorted.1 = listed.1 ∧ sorted.2.notices = listed.2.notices ∧
      sorted.2.written = listed.2.written ∧
      (∀ p ∈ sorted.2.written, ∃ text text',
        sorted.2.disk.read p = .ok text.toUTF8 ∧ listed.2.disk.read p = .ok text'.toUTF8 ∧
        (Text.lines text).Perm (Text.lines text')) ∧
      ∀ statements, (Text.lines (Index.render statements true)).Perm
        (Text.lines (Index.render statements false)) := by
  intro sorted listed
  rw [← and_assoc, ← and_assoc, ← and_assoc]
  refine ⟨?_, Index.lines_render_perm⟩
  cases hroot : d.isDirectory config.root with
  | false =>
    -- nothing is written, so that there is nothing to sort
    obtain ⟨hsorted, hwritten⟩ := generate_withSort_of_not_isDirectory hroot true
    obtain ⟨hlisted, -⟩ := generate_withSort_of_not_isDirectory hroot false
    have heq : sorted = listed := hsorted.trans hlisted.symm
    have hnone : sorted.2.written = [] := by rw [← hwritten, ← hsorted]
    refine ⟨⟨⟨by rw [heq], by rw [heq]⟩, by rw [heq]⟩, fun p hp => ?_⟩
    simp [hnone] at hp
  | true =>
    obtain ⟨place, hr⟩ := Disk.isDirectory_iff.1 hroot
    obtain ⟨os, outcome, hos, hnone, hrun⟩ := exists_settled_withSort hn hr (hl place hr)
    have hsorted : sorted = _ := hrun true
    have hlisted : listed = _ := hrun false
    rw [hsorted, hlisted]
    refine ⟨⟨⟨rfl, ?_⟩, ?_⟩, fun p hp => ?_⟩
    · rw [Disk.notices_foldl_settle, Disk.notices_foldl_settle, Disk.notice_withSort,
        Disk.notice_withSort]
      rfl
    · rw [Disk.written_foldl_settle, Disk.written_foldl_settle]
    · rw [Disk.written_foldl_settle] at hp
      obtain ⟨s, hs, hsource, ho, rfl⟩ := (mem_written_iff hos).1 hp
      obtain ⟨hplace, hrs⟩ := hs.resolve hn hr
      obtain ⟨text, hread, hlines⟩ := Disk.read_index_withSort (hl place hr) hplace hrs hsource
        ((Disk.placed_outline d config.exclude _).bottomUp_plan.sublist hos.sublist) ho
        (hnone _ ho)
      exact ⟨text true, text false, hread true, hread false, hlines⟩

/-- In the small disk the link is listed behind the package inside and sorted before it; the index
of the package has the same lines in both cases. -/
theorem generate_withSort_sampleDisk :
    (generate (sampleConfig.withSort false) sampleDisk).1 =
        .ok [.module "a", .member "a" "x", .module "q", .member "q" "b", .module "l"] ∧
      (generate (sampleConfig.withSort false) sampleDisk).2.written =
        [⟨"", ["p", "q", "__init__.py"]⟩, ⟨"", ["p", "__init__.py"]⟩] ∧
      ∃ text text',
        (generate (sampleConfig.withSort true) sampleDisk).2.disk.read ⟨"", ["p", "__init__.py"]⟩ =
          .ok text.toUTF8 ∧
        (generate (sampleConfig.withSort false) sampleDisk).2.disk.read
          ⟨"", ["p", "__init__.py"]⟩ = .ok text'.toUTF8 ∧
        (Text.lines text).Perm (Text.lines text') := by
  have hok : (generate (sampleConfig.withSort true) sampleDisk).1 =
      .ok [.module "a", .member "a" "x", .module "q", .member "q" "b", .module "l"] := by
    decide +kernel
  have hwritten : (generate (sampleConfig.withSort true) sampleDisk).2.written =
      [⟨"", ["p", "q", "__init__.py"]⟩, ⟨"", ["p", "__init__.py"]⟩] := by
    decide +kernel
  have hroot : sampleDisk.resolve sampleConfig.root = .found ["p"] .directory := by decide +kernel
  have hlinks (place : Location)
      (hr : sampleDisk.resolve sampleConfig.root = .found place .directory) :
      sampleDisk.LinksAvoidIndexes place := by
    obtain rfl : ["p"] = place := (Resolution.found.inj (hroot.symm.trans hr)).1
    decide +kernel
  obtain ⟨hsame, -, hsameWritten, hlines, -⟩ :=
    generate_withSort sampleConfig (by decide +kernel) hlinks
  refine ⟨hsame.symm.trans hok, hsameWritten.symm.trans hwritten, hlines _ ?_⟩
  rw [hwritten]
  simp

end PackageIndex
