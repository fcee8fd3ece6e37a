import PackageIndex.Proofs.Outline
import PackageIndex.Proofs.Walks

/-!
# What a scan reports

A scan lists a directory and looks at each child by its own name.  `scan_reports_usable` says what
comes out for every disk, whatever links are on it: real directories, and all that leads to a
regular file through links or without; each of them once and in the order of the listing.  Where a
link leads elsewhere or nowhere, the child is left out and the others are reported as before.

A path that does not lead to a directory is not listed.  The failure then tells where the walk along
the path stops: where something is missing (`StopsAtNothing`), at something that is no directory
(`StopsAtNonDirectory`), or nowhere.
-/

namespace PackageIndex.Disk

variable {d : Disk} {exclude : List String} {p : Path} {place : Location}

/-! ## Children -/

/-- Which entry a child of a directory makes. -/
lemma entry?_eq_some_iff {name : String} {e : Entry}
    (hr : d.resolve p = .found place .directory) (hn : IsName name) :
    d.entry? p place name = some e ↔ e.path = p.child name ∧
      (e.isDirectory = true ∧ d.node? (place ++ [name]) = some .directory ∨
        e.isDirectory = false ∧ ∃ other content, d.LeadsTo (p.child name)
          (.found other (.file content))) := by
  have hleads (other : Location) (content : ByteArray) :
      d.LeadsTo (p.child name) (.found other (.file content)) ↔
        d.resolve (p.child name) = .found other (.file content) := by
    rw [leadsTo_iff]
    exact and_iff_left (by simp)
  simp only [hleads]
  constructor
  · intro he
    have hpath : e.path = p.child name := path_of_entry? he
    refine ⟨hpath, ?_⟩
    cases hd : e.isDirectory with
    | true => exact Or.inl ⟨rfl, node?_of_entry? he hd⟩
    | false => exact Or.inr ⟨rfl, resolve_of_entry? hr hn he hd⟩
  · obtain ⟨path, isDirectory⟩ := e
    rintro ⟨rfl, ⟨rfl, hnode⟩ | ⟨rfl, other, content, hfile⟩⟩
    · unfold entry?
      simp [hnode]
    · have hchild (hl : ∀ target, d.node? (place ++ [name]) ≠ some (.link target)) :=
        (resolve_child hr hn hl).symm.trans hfile
      unfold entry?
      cases hnode : d.node? (place ++ [name]) with
      | none => simp [hnode] at hchild
      | some node =>
        cases node with
        | file bytes => rfl
        | directory | pipe => simp [hnode] at hchild
        | link target =>
          have hisFile : d.isFile (p.child name) = true := isFile_iff.2 ⟨other, content, hfile⟩
          simp [hisFile]

/-- A name is kept if no glob matches it. -/
lemma isExcluded_eq_false_iff {name : String} :
    Glob.isExcluded exclude name = false ↔
      ∀ pattern ∈ exclude, Glob.isMatch pattern name = false := by
  simp [Glob.isExcluded]

/-! ## Paths that are not listed -/

/-- The walk along a path stops where something is missing. -/
def StopsAtNothing (d : Disk) (p : Path) : Prop :=
  (∃ place asDirectory, d.LeadsTo p (.vacant place asDirectory)) ∨
    d.LeadsTo p (.fault .notFound)

/-- The walk along a path stops at something that is no directory, at its end or before. -/
def StopsAtNonDirectory (d : Disk) (p : Path) : Prop :=
  (∃ place node, node ≠ .directory ∧ d.LeadsTo p (.found place node)) ∨
    d.LeadsTo p (.fault .notDirectory)

/-- A walk stops at a directory, at nothing, at something else, or not at all. -/
lemma leadsTo_cases (d : Disk) (p : Path) :
    (∃ place, d.LeadsTo p (.found place .directory)) ∨ d.StopsAtNothing p ∨
      d.StopsAtNonDirectory p ∨ ∀ outcome, ¬ d.LeadsTo p outcome := by
  by_cases hmany : ∀ outcome, ¬ d.LeadsTo p outcome
  · exact Or.inr (Or.inr (Or.inr hmany))
  obtain ⟨outcome, h⟩ : ∃ outcome, d.LeadsTo p outcome := by
    by_contra hnone
    exact hmany fun outcome h => hnone ⟨outcome, h⟩
  cases outcome with
  | found place node =>
    by_cases hnode : node = .directory
    · subst hnode
      exact Or.inl ⟨place, h⟩
    · exact Or.inr (Or.inr (Or.inl (Or.inl ⟨place, node, hnode, h⟩)))
  | vacant place asDirectory => exact Or.inr (Or.inl (Or.inl ⟨place, asDirectory, h⟩))
  | fault f =>
    have hf : f = .notFound ∨ f = .notDirectory := by
      obtain ⟨n, -, hw⟩ := h
      exact hw.fault_cases
    rcases hf with rfl | rfl
    · exact Or.inr (Or.inl (Or.inr h))
    · exact Or.inr (Or.inr (Or.inl (Or.inr h)))

/-! ## Scans -/

/-- The scan of a directory gives the entries of the names that are kept. -/
lemma scan_of_leadsTo_directory (h : d.LeadsTo p (.found place .directory)) :
    d.scan exclude p = .ok (((d.childNames place).filter (! Glob.isExcluded exclude ·)).filterMap
      (d.entry? p place)) := by
  simp [scan, candidates, list, (leadsTo_iff.1 h).1]

/-- The scan of a path that stops at nothing says that it is missing. -/
lemma scan_of_stopsAtNothing (h : d.StopsAtNothing p) :
    d.scan exclude p = .error (.missing p) := by
  rcases h with ⟨place, asDirectory, h⟩ | h
  · simp [scan, candidates, list, (leadsTo_iff.1 h).1]
  · simp [scan, candidates, list, (leadsTo_iff.1 h).1]

/-- The scan of a path that stops at something else says that this is no directory. -/
lemma scan_of_stopsAtNonDirectory (h : d.StopsAtNonDirectory p) :
    d.scan exclude p = .error (.notListed p .notDirectory) := by
  rcases h with ⟨place, node, hnode, h⟩ | h
  · cases node with
    | directory => exact absurd rfl hnode
    | file content | link target | pipe =>
      simp [scan, candidates, list, (leadsTo_iff.1 h).1]
  · simp [scan, candidates, list, (leadsTo_iff.1 h).1]

/-- The scan of a path that leads nowhere says that there are too many links. -/
lemma scan_of_not_leadsTo (h : ∀ outcome, ¬ d.LeadsTo p outcome) :
    d.scan exclude p = .error (.notListed p .tooManyLinks) := by
  simp [scan, candidates, list, resolve_eq_tooManyLinks_iff.2 h]

/-- The entries are the usable children of a directory that a path leads to.  They come in the order
in which the directory lists its children, each of them once.  A child makes an entry if its own
name matches no glob and it is a real directory or leads to a regular file, through links or
without. -/
structure Reports (d : Disk) (exclude : List String) (p : Path) (place : Location)
    (entries : List Entry) : Prop where
  sublist : (entries.map Entry.name).Sublist (d.childNames place)
  nodup : (entries.map Entry.name).Nodup
  mem_iff : ∀ e, e ∈ entries ↔ ∃ name, d.node? (place ++ [name]) ≠ none ∧
    (∀ pattern ∈ exclude, Glob.isMatch pattern name = false) ∧ e.path = p.child name ∧
    (e.isDirectory = true ∧ d.node? (place ++ [name]) = some .directory ∨
      e.isDirectory = false ∧ ∃ other content, d.LeadsTo (p.child name)
        (.found other (.file content)))

/-- The entries of the names that are kept are those that a scan has to report. -/
lemma reports_of_leadsTo (hn : d.HasNames) (h : d.LeadsTo p (.found place .directory)) :
    d.Reports exclude p place (((d.childNames place).filter
      (! Glob.isExcluded exclude ·)).filterMap (d.entry? p place)) := by
  have hr : d.resolve p = .found place .directory := (leadsTo_iff.1 h).1
  have hsub : ((((d.childNames place).filter (! Glob.isExcluded exclude ·)).filterMap
      (d.entry? p place)).map Entry.name).Sublist (d.childNames place) :=
    (map_name_sublist name_of_entry? _).trans List.filter_sublist
  refine ⟨hsub, hsub.nodup (nodup_childNames d place), fun e => ?_⟩
  simp only [List.mem_filterMap, List.mem_filter, mem_childNames, Bool.not_eq_true',
    isExcluded_eq_false_iff]
  refine exists_congr fun name => ?_
  constructor
  · rintro ⟨⟨hnode, hexclude⟩, he⟩
    exact ⟨hnode, hexclude, (entry?_eq_some_iff hr (hn _ _ hnode)).1 he⟩
  · rintro ⟨hnode, hexclude, he⟩
    exact ⟨⟨hnode, hexclude⟩, (entry?_eq_some_iff hr (hn _ _ hnode)).2 he⟩

/-- A scan returns exactly if the path leads to a directory, and then it reports the usable children
of that directory; nothing that a child is or leads to stops it.  In all other cases the scan fails.
The path is missing if the walk along it stops where nothing stands; it cannot be listed if the walk
stops at something that is no directory, or if too many links are on the way, as they are where
links lead in a circle. -/
theorem scan_reports_usable (hn : d.HasNames) (exclude : List String) (p : Path) :
    (∀ place, d.LeadsTo p (.found place .directory) →
      ∃ entries, d.scan exclude p = .ok entries ∧ d.Reports exclude p place entries) ∧
    ((∃ entries, d.scan exclude p = .ok entries) ↔
      ∃ place, d.LeadsTo p (.found place .directory)) ∧
    (d.scan exclude p = .error (.missing p) ↔ d.StopsAtNothing p) ∧
    (d.scan exclude p = .error (.notListed p .notDirectory) ↔ d.StopsAtNonDirectory p) ∧
    (d.scan exclude p = .error (.notListed p .tooManyLinks) ↔
      ∀ outcome, ¬ d.LeadsTo p outcome) ∧
    (d.Loops p → d.scan exclude p = .error (.notListed p .tooManyLinks)) ∧
    ∀ f, d.scan exclude p = .error f →
      f = .missing p ∨ f = .notListed p .notDirectory ∨ f = .notListed p .tooManyLinks := by
  refine ⟨fun place h => ⟨_, scan_of_leadsTo_directory h, reports_of_leadsTo hn h⟩, ?_⟩
  -- a walk goes one of four ways, and each of them gives a result of its own
  have hdirectory : (∃ place, d.LeadsTo p (.found place .directory)) →
      ∃ entries, d.scan exclude p = .ok entries :=
    fun ⟨_, h⟩ => ⟨_, scan_of_leadsTo_directory h⟩
  have hnothing : d.StopsAtNothing p → d.scan exclude p = .error (.missing p) :=
    scan_of_stopsAtNothing
  have hother : d.StopsAtNonDirectory p →
      d.scan exclude p = .error (.notListed p .notDirectory) :=
    scan_of_stopsAtNonDirectory
  have hmany : (∀ outcome, ¬ d.LeadsTo p outcome) →
      d.scan exclude p = .error (.notListed p .tooManyLinks) :=
    scan_of_not_leadsTo
  refine ⟨⟨?_, hdirectory⟩, ⟨?_, hnothing⟩, ⟨?_, hother⟩, ⟨?_, hmany⟩,
    fun h => hmany h.not_leadsTo, ?_⟩
  all_goals
    rcases leadsTo_cases d p with h | h | h | h
  all_goals grind

/-- A package with all kinds of children: a source, a chain of two links to it, a directory and a
link to that, links to nothing and to themselves, a pipe, and a source that is to be left out.
Beside it is a link to the package. -/
def crowdedDisk : Disk where
  entries := [(["p"], .directory), (["p", "gone"], .link "nowhere"), (["p", "c.py"], .link "b.py"),
    (["p", "a.py"], .file "".toUTF8), (["p", "loop"], .link "loop"), (["p", "q"], .directory),
    (["p", "r"], .link "q"), (["p", "test_a.py"], .link "a.py"), (["p", "b.py"], .link "./a.py"),
    (["p", "pipe"], .pipe), (["l"], .link "p/q/..")]
  mentions := [["p"], ["p", "gone"], ["p", "c.py"], ["p", "loop"], ["p", "a.py"], ["p", "r"],
    ["p", "q"], ["p", "test_a.py"], ["p", "pipe"], ["p", "b.py"]]

/-- Through the link the package is scanned past all that cannot be used.  A link to nothing is
missing, a step below a source is blocked, and a link to itself leads nowhere. -/
theorem scan_reports_usable_crowdedDisk :
    crowdedDisk.HasNames ∧
      crowdedDisk.LeadsTo ⟨"", ["l"]⟩ (.found ["p"] .directory) ∧
      crowdedDisk.Reports ["test_*"] ⟨"", ["l"]⟩ ["p"]
        [⟨⟨"", ["l", "c.py"]⟩, false⟩, ⟨⟨"", ["l", "a.py"]⟩, false⟩, ⟨⟨"", ["l", "q"]⟩, true⟩,
          ⟨⟨"", ["l", "b.py"]⟩, false⟩] ∧
      crowdedDisk.StopsAtNothing ⟨"", ["p", "gone"]⟩ ∧
      crowdedDisk.StopsAtNonDirectory ⟨"", ["p", "a.py", "x"]⟩ ∧
      crowdedDisk.Loops ⟨"", ["p", "loop"]⟩ ∧
      crowdedDisk.scan [] ⟨"", ["p", "loop"]⟩ =
        .error (.notListed ⟨"", ["p", "loop"]⟩ .tooManyLinks) := by
  have hn : crowdedDisk.HasNames := by decide +kernel
  have hl : crowdedDisk.LeadsTo ⟨"", ["l"]⟩ (.found ["p"] .directory) :=
    leadsTo_iff.2 ⟨by decide +kernel, by simp⟩
  obtain ⟨hreports, -, -, -, -, -⟩ := scan_reports_usable hn ["test_*"] ⟨"", ["l"]⟩
  obtain ⟨entries, hscan, hentries⟩ := hreports _ hl
  obtain rfl : [⟨⟨"", ["l", "c.py"]⟩, false⟩, ⟨⟨"", ["l", "a.py"]⟩, false⟩,
      ⟨⟨"", ["l", "q"]⟩, true⟩, ⟨⟨"", ["l", "b.py"]⟩, false⟩] = entries := by
    have hfound : crowdedDisk.scan ["test_*"] ⟨"", ["l"]⟩ = .ok [⟨⟨"", ["l", "c.py"]⟩, false⟩,
        ⟨⟨"", ["l", "a.py"]⟩, false⟩, ⟨⟨"", ["l", "q"]⟩, true⟩, ⟨⟨"", ["l", "b.py"]⟩, false⟩] := by
      decide +kernel
    exact Except.ok.inj (hfound.symm.trans hscan)
  obtain ⟨-, -, hmissing, -⟩ := scan_reports_usable hn [] ⟨"", ["p", "gone"]⟩
  obtain ⟨-, -, -, hblocked, -⟩ := scan_reports_usable hn [] ⟨"", ["p", "a.py", "x"]⟩
  obtain ⟨-, -, -, -, -, hendless, -⟩ := scan_reports_usable hn [] ⟨"", ["p", "loop"]⟩
  have hloops : crowdedDisk.Loops ⟨"", ["p", "loop"]⟩ := by
    refine ⟨fun i => if i = 0 then ([], ["p", "loop"]) else (["p"], ["loop"]), rfl, fun i => ?_⟩
    have hnext : (["p"], ["loop"]) = (linkOrigin ["p"] "loop", targetSteps "loop" ++ []) := by
      decide
    cases i with
    | zero => exact ⟨["p"], "loop", [], rfl, by simp, hnext⟩
    | succ i => exact ⟨["p"], "loop", [], rfl, by simp, hnext⟩
  exact ⟨hn, hl, hentries, hmissing.1 (by decide +kernel), hblocked.1 (by decide +kernel), hloops,
    hendless hloops⟩

end PackageIndex.Disk
