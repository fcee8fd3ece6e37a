import PackageIndex.Proofs.Traces

/-!
# What is told of a run

A run that tells every step does what a run that tells nothing does, and what it tells is a faithful
account.  `generate_tells` reads it off the trace of the run, whether the run returns or fails:
which indexes were written and in which order, which sources were parsed and how many names each of
them exposes, and which directories below the root turned out to be empty.

What is told comes in the order in which visits end.  What lies below a node of a trace is told in
one piece (`Trace.descendants_infix`), so that the notice of a child comes behind all that is told
of what lies below it, and before anything is told of the next child.
-/

namespace PackageIndex

namespace Notice

/-- The index that a notice says was written. -/
def wrote? : Notice → Option Path
  | .wrote p => some p
  | _ => none

/-- The source that a notice says was parsed, and how many names it exposes. -/
def parsed? : Notice → Option (Path × ℕ)
  | .parsed p count => some (p, count)
  | _ => none

/-- The directory that a notice says is empty. -/
def skipped? : Notice → Option Path
  | .skippedEmpty p => some p
  | _ => none

end Notice

namespace Trace

/-- The source that was parsed, and how many names it exposes. -/
def parsed? : Trace → Option (Path × ℕ)
  | .source s names => some (s.path, names.length)
  | .refused _ _ | .package _ _ _ => none

/-- The directory that was visited and exposes nothing. -/
def skipped? (t : Trace) : Option Path := if t.isEmpty then some t.site.path else none

/-! ## Notices of nodes -/

/-- A notice of an index is given for the visit that wrote it. -/
lemma wrote?_notice? (t : Trace) : t.notice?.bind Notice.wrote? = t.index? := by
  rcases t with ⟨s, f⟩ | ⟨s, names⟩ | ⟨s, children, f | _ | ⟨x, xs⟩⟩ <;> rfl

/-- A notice of a source is given for the visit that parsed it. -/
lemma parsed?_notice? (t : Trace) : t.notice?.bind Notice.parsed? = t.parsed? := by
  rcases t with ⟨s, f⟩ | ⟨s, names⟩ | ⟨s, children, f | _ | ⟨x, xs⟩⟩ <;> rfl

/-- A notice of an empty directory is given for the visit that found it so. -/
lemma skipped?_notice? (t : Trace) : t.notice?.bind Notice.skipped? = t.skipped? := by
  rcases t with ⟨s, f⟩ | ⟨s, names⟩ | ⟨s, children, f | _ | ⟨x, xs⟩⟩ <;> rfl

/-- What is told of a visit and is no notice of an empty directory is told of all its nodes. -/
lemma filterMap_told {α : Type} {f : Notice → Option α} (hf : ∀ p, f (.skippedEmpty p) = none)
    (t : Trace) : t.told.filterMap f = t.nodes.filterMap fun u => u.notice?.bind f := by
  have hreport : t.report.filterMap f = t.told.filterMap f := by
    rw [report_eq, List.filterMap_append]
    split_ifs <;> simp [hf]
  rw [← hreport, report, List.filterMap_filterMap]

/-- A directory is said to be empty by whoever visits its parent. -/
lemma filterMap_skipped?_told (t : Trace) :
    t.told.filterMap Notice.skipped? = t.descendants.filterMap skipped? := by
  have hdescendants : (t.descendants.filterMap notice?).filterMap Notice.skipped? =
      t.descendants.filterMap skipped? := by
    rw [List.filterMap_filterMap]
    exact List.filterMap_congr fun u _ => skipped?_notice? u
  rw [told]
  split_ifs with hempty
  · exact hdescendants
  · have hnone : t.notice?.bind Notice.skipped? = none := by
      rw [skipped?_notice?, skipped?, if_neg hempty]
    rw [nodes, List.filterMap_append, List.filterMap_append, hdescendants, List.filterMap_filterMap,
      List.filterMap_cons, hnone, List.filterMap_nil, List.append_nil]

/-! ## The order of notices -/

/-- What lies below a node is listed in one piece. -/
lemma descendants_infix {t u : Trace} (hu : u ∈ t.nodes) : u.descendants <:+: t.descendants := by
  induction t with
  | refused s f =>
    obtain rfl : u = .refused s f := by simpa [nodes] using hu
    exact List.infix_rfl
  | source s names =>
    obtain rfl : u = .source s names := by simpa [nodes] using hu
    exact List.infix_rfl
  | package s children outcome ih =>
    rcases mem_nodes.1 hu with hu | rfl
    · rw [descendants_package, List.mem_flatMap] at hu
      obtain ⟨c, hc, hu⟩ := hu
      have hnodes : c.nodes <:+: children.flatMap nodes := List.infix_flatMap_of_mem hc nodes
      have hbelow : c.descendants <:+: c.nodes := (List.prefix_append _ _).isInfix
      rw [descendants_package]
      exact (ih c hc hu).trans (hbelow.trans hnodes)
    · exact List.infix_rfl

/-- What is told of the children of a directory is told in one piece, child by child. -/
lemma exists_told_eq {t : Trace} {s : Site} {children : List Trace}
    {outcome : Except Failure (List Statement)} (hu : .package s children outcome ∈ t.nodes) :
    ∃ front back, t.told = front ++ children.flatMap report ++ back := by
  have hbelow : children.flatMap nodes <:+: t.descendants := by
    rw [← descendants_package s children outcome]
    exact descendants_infix hu
  have htold : t.descendants.filterMap notice? <+: t.told := by
    rw [told]
    split_ifs
    · exact List.prefix_rfl
    · rw [nodes, List.filterMap_append]
      exact List.prefix_append _ _
  have hinfix : children.flatMap report <:+: t.told := by
    have hreport : (children.flatMap nodes).filterMap notice? = children.flatMap report :=
      List.filterMap_flatMap
    rw [← hreport]
    exact (hbelow.filterMap notice?).trans htold.isInfix
  obtain ⟨front, back, h⟩ := hinfix
  exact ⟨front, back, h.symm⟩

end Trace

variable {d : Disk}

/-- A source that was parsed exposes the names that its trace says. -/
lemma Visits.exists_tree {config : Config} {c b : Disk} {s : Site} {names : List String}
    (h : Visits config c s (.source s names) b) :
    ∃ tree, c.parse s.path config.version = .ok tree ∧
      names = tree.exposedNames config.respectListing := by
  generalize ht : Trace.source s names = t at h
  cases h with
  | package => simp at ht
  | leaf =>
    unfold Disk.leaf at ht
    split_ifs at ht
    split at ht
    · rename_i tree htree
      exact ⟨tree, htree, (Trace.source.inj ht).2⟩
    · simp at ht

/-! ## Whole runs -/

/-- Whether steps are told changes nothing but the notices, and a run that does not tell them gives
none.  A run that tells them has a trace, and the notices are those of the trace, whether the run
returns or fails: those of indexes are the indexes written, in order; those of sources are the
sources that were parsed, in order, each with the number of names it exposes; and those of empty
directories are the directories below the root that were visited and expose nothing.  The notice of
a child comes right behind all that is told of what lies below it, and before anything is told of
the children that are visited later. -/
theorem generate_tells (config : Config) (hn : d.HasNames) :
    let quiet := generate (config.withVerbose false) d
    let telling := generate (config.withVerbose true) d
    quiet.1 = telling.1 ∧ quiet.2.written = telling.2.written ∧ quiet.2.disk = telling.2.disk ∧
    quiet.2.notices = [] ∧
    (∃ t after, Visits config d (d.siteOf config.root) t after) ∧
    ∀ t after, Visits config d (d.siteOf config.root) t after →
      telling.1 = t.outcome ∧ telling.2.disk = after ∧ telling.2.notices = t.told ∧
      telling.2.notices.filterMap Notice.wrote? = telling.2.written ∧
      telling.2.notices.filterMap Notice.parsed? = t.nodes.filterMap Trace.parsed? ∧
      telling.2.notices.filterMap Notice.skipped? = t.descendants.filterMap Trace.skipped? ∧
      (∀ s names, .source s names ∈ t.nodes → ∃ c tree, d.EqOffFiles c ∧
        c.parse s.path config.version = .ok tree ∧
        names = tree.exposedNames config.respectListing) ∧
      ∀ s before u later outcome, .package s (before ++ u :: later) outcome ∈ t.nodes →
        ∃ front back, telling.2.notices = front ++ before.flatMap Trace.report ++
          u.descendants.filterMap Trace.notice? ++ u.notice?.toList ++
          later.flatMap Trace.report ++ back := by
  intro quiet telling
  have hrun {t : Trace} {after : Disk} (h : Visits config d (d.siteOf config.root) t after)
      (verbose : Bool) : generate (config.withVerbose verbose) d = (t.outcome,
        (Progress.start d).advance (config.withVerbose verbose) after t.written t.told) :=
    run_visit_root hn (h.withVerbose verbose) (by omega)
  have hsame : quiet.1 = telling.1 ∧ quiet.2.written = telling.2.written ∧
      quiet.2.disk = telling.2.disk ∧ quiet.2.notices = [] := by
    obtain ⟨t, after, h⟩ := exists_visits_root config hn
    have hquiet : quiet = _ := hrun h false
    have htelling : telling = _ := hrun h true
    rw [hquiet, htelling]
    exact ⟨rfl, rfl, rfl, rfl⟩
  obtain ⟨hresult, hwritten, hdisk, hnone⟩ := hsame
  refine ⟨hresult, hwritten, hdisk, hnone, exists_visits_root config hn, ?_⟩
  intro t after h
  have htelling : telling = _ := hrun h true
  have hnotices : telling.2.notices = t.told := by rw [htelling]; rfl
  have hwritten : telling.2.written = t.written := by rw [htelling]; rfl
  refine ⟨by rw [htelling], by rw [htelling]; rfl, hnotices, ?_, ?_, ?_, ?_, ?_⟩
  · rw [hnotices, hwritten, Trace.filterMap_told fun _ => rfl]
    exact List.filterMap_congr fun u _ => u.wrote?_notice?
  · rw [hnotices, Trace.filterMap_told fun _ => rfl]
    exact List.filterMap_congr fun u _ => u.parsed?_notice?
  · rw [hnotices, Trace.filterMap_skipped?_told]
  · intro s names hs
    obtain ⟨c, b, heq, hvisits⟩ := h.exists_of_mem_nodes hs
    obtain ⟨tree, hparse, hnames⟩ := hvisits.exists_tree
    exact ⟨c, tree, heq, hparse, hnames⟩
  · intro s before u later outcome hs
    obtain ⟨front, back, htold⟩ := Trace.exists_told_eq hs
    refine ⟨front, back, ?_⟩
    have hreport : u.report = u.descendants.filterMap Trace.notice? ++ u.notice?.toList := by
      rw [Trace.report, Trace.nodes, List.filterMap_append]
      rfl
    rw [hnotices, htold, List.flatMap_append, List.flatMap_cons, hreport]
    simp only [List.append_assoc]

/-- The run from the package of the small disk tells of every source, of the directory with nothing
in it, which is listed behind the first source, and of both indexes, children first. -/
theorem generate_tells_sampleDisk :
    sampleDisk.HasNames ∧
      (generate (sampleConfig.withVerbose false) sampleDisk).2.notices = [] ∧
      ∃ t after, Visits sampleConfig sampleDisk (sampleDisk.siteOf sampleConfig.root) t after ∧
        t.told = [.parsed ⟨"", ["p", "a.py"]⟩ 1, .skippedEmpty ⟨"", ["p", "e"]⟩,
          .parsed ⟨"", ["p", "q", "b.py"]⟩ 0, .wrote ⟨"", ["p", "q", "__init__.py"]⟩,
          .parsed ⟨"", ["p", "l.py"]⟩ 0, .wrote ⟨"", ["p", "__init__.py"]⟩] ∧
        t.nodes.filterMap Trace.parsed? = [(⟨"", ["p", "a.py"]⟩, 1), (⟨"", ["p", "q", "b.py"]⟩, 0),
          (⟨"", ["p", "l.py"]⟩, 0)] ∧
        t.descendants.filterMap Trace.skipped? = [⟨"", ["p", "e"]⟩] := by
  have hnames : sampleDisk.HasNames := by decide +kernel
  have hnotices : (generate (sampleConfig.withVerbose true) sampleDisk).2.notices =
      [.parsed ⟨"", ["p", "a.py"]⟩ 1, .skippedEmpty ⟨"", ["p", "e"]⟩,
        .parsed ⟨"", ["p", "q", "b.py"]⟩ 0, .wrote ⟨"", ["p", "q", "__init__.py"]⟩,
        .parsed ⟨"", ["p", "l.py"]⟩ 0, .wrote ⟨"", ["p", "__init__.py"]⟩] := by
    decide +kernel
  obtain ⟨-, -, -, hquiet, ⟨t, after, h⟩, htrace⟩ := generate_tells sampleConfig hnames
  obtain ⟨-, -, htold, -, hparsed, hskipped, -⟩ := htrace t after h
  rw [hnotices] at htold hparsed hskipped
  exact ⟨hnames, hquiet, t, after, h, htold.symm, hparsed.symm, hskipped.symm⟩

end PackageIndex
