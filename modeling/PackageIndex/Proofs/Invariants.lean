import PackageIndex.Proofs.Plan

/-!
# Invariants of runs

A plan says what a run does when links avoid indexes.  Of runs among arbitrary links less is known,
and it is shown event by event.  `Run.Ensures` says that a step keeps a property of how far a run
is, whether it returns or fails, and what holds of its result if it returns.

The events of a visit are few: a source is parsed, a child adds its statements to those of its
directory, an index is written, and the user is told.  `Run.Invariant` has a field for each of them.
`Invariant.ensures_visit` is the induction on the depth of a visit, made once for all invariants.
-/

namespace PackageIndex

/-- The notice is about a step of a run, and not about its end or what comes before it. -/
def Notice.isStep : Notice → Bool
  | .parsed _ _ | .skippedEmpty _ | .wrote _ => true
  | _ => false

/-- A directory is listed where its path leads to. -/
lemma Disk.candidates_eq {d : Disk} {exclude : List String} {p : Path} {place : Location}
    (hr : d.resolve p = .found place .directory) : d.candidates exclude p =
      .ok (place, (d.childNames place).filter (! Glob.isExcluded exclude ·)) := by
  simp [candidates, list, hr]

namespace Run

variable {α β : Type} {P : Progress → Prop} {Q : α → Prop}

/-! ## Steps -/

/-- A step keeps a property of how far a run is, whether it returns or fails, and its result has a
property too. -/
def Ensures (P : Progress → Prop) (Q : α → Prop) (step : Run α) : Prop :=
  ∀ st, P st → P (step.run st).2 ∧ ∀ a, (step.run st).1 = .ok a → Q a

/-- A step that only returns keeps everything. -/
lemma ensures_pure {a : α} (h : Q a) : Ensures P Q (pure a : Run α) := fun _ hst =>
  ⟨hst, fun _ ha => Except.ok.inj ha ▸ h⟩

/-- A step that throws keeps everything and has no result. -/
lemma ensures_throw (f : Failure) : Ensures P Q (throw f : Run α) := fun _ hst =>
  ⟨hst, fun _ ha => nomatch ha⟩

/-- A result that was computed already keeps everything. -/
lemma ensures_mk_pure {result : Except Failure α} (h : ∀ a, result = .ok a → Q a) :
    Ensures P Q (ExceptT.mk (pure result) : Run α) := fun _ hst => ⟨hst, h⟩

/-- Of two steps in a row each keeps the property, and the second may use what holds of the result
of the first. -/
lemma Ensures.bind {R : β → Prop} {step : Run α} {next : α → Run β} (h : Ensures P Q step)
    (h' : ∀ a, Q a → Ensures P R (next a)) : Ensures P R (step >>= next) := by
  intro st hst
  obtain ⟨hafter, hresult⟩ := h st hst
  rw [run_bind]
  rcases hrun : step.run st with ⟨f | a, t⟩
  · rw [hrun] at hafter
    exact ⟨hafter, fun _ hb => nomatch hb⟩
  · rw [hrun] at hafter hresult
    exact h' a (hresult a rfl) t hafter

/-- What is kept may be used of the progress that is read. -/
lemma ensures_get_bind {next : Progress → Run α} (h : ∀ st, P st → Ensures P Q (next st)) :
    Ensures P Q (get >>= next) := by
  intro st hst
  rw [run_bind, run_get]
  exact h st hst st hst

/-- One step for each name keeps what each of them keeps, and each result has the property. -/
lemma ensures_mapM {names : List String} {step : String → Run α}
    (h : ∀ name ∈ names, Ensures P Q (step name)) :
    Ensures P (fun results => ∀ a ∈ results, Q a) (names.mapM step) := by
  induction names with
  | nil =>
    rw [List.mapM_nil]
    exact ensures_pure (by simp)
  | cons name names ih =>
    rw [List.mapM_cons]
    refine (h name (by simp)).bind fun a ha => ?_
    refine (ih fun other hother => h other (List.mem_cons_of_mem _ hother)).bind fun as has => ?_
    exact ensures_pure (by simpa using ⟨ha, has⟩)

/-! ## Invariants -/

/-- What each event of a run keeps.  `D` is known of the directories that are visited, by path and
location, and `V` of the statements that the visit of a path has led to so far. -/
structure Invariant (config : Config) (P : Progress → Prop) (D : Path → Location → Prop)
    (V : Path → List Statement → Prop) : Prop where
  directory : ∀ {st p place}, P st → st.disk.resolve p = .found place .directory → D p place
  nil : ∀ {p place}, D p place → V p []
  append : ∀ {p place statements more}, D p place → V p statements → V p more →
    V p (statements ++ more)
  source : ∀ {st p tree}, P st → p.suffix = sourceSuffix →
    st.disk.parse p config.version = .ok tree →
    V p ((tree.exposedNames config.respectListing).map .module)
  child : ∀ {st p place name e statements}, P st → D p place →
    Glob.isExcluded config.exclude name = false → st.disk.entry? p place name = some e →
    e.isEligible = true → V e.path statements → (e.isDirectory = true → statements ≠ []) →
    V p (statementsOfChild e.moduleName statements)
  tell : ∀ {st} {notice : Notice}, notice.isStep = true → P st →
    P { st with notices := st.notices ++ [notice] }
  write : ∀ {st p place statements c}, P st → D p place → V p statements → statements ≠ [] →
    st.disk.writeIndex (p.child indexName) statements config.sort = .ok c →
    P { st with disk := c, written := st.written ++ [p.child indexName] }

namespace Invariant

variable {config : Config} {D : Path → Location → Prop} {V : Path → List Statement → Prop}

/-- Telling of a step keeps the invariant. -/
lemma ensures_tell (h : Invariant config P D V) {notice : Notice} (hstep : notice.isStep = true) :
    Ensures P (fun _ => True) (PackageIndex.tell config notice) := by
  intro st hst
  rw [run_tell]
  refine ⟨?_, fun _ _ => trivial⟩
  cases config.verbose
  · exact hst
  · exact h.tell hstep hst

/-- The visit of a source keeps the invariant and leads to what the source exposes. -/
lemma ensures_visitSource (h : Invariant config P D V) {p : Path}
    (hsuffix : p.suffix = sourceSuffix) : Ensures P (V p) (visitSource config p) := by
  unfold visitSource visitSource.liftExcept
  refine ensures_get_bind fun st hst => ?_
  refine (ensures_mk_pure fun tree htree => h.source hst hsuffix htree).bind fun tree hnames => ?_
  exact (h.ensures_tell rfl).bind fun _ _ => ensures_pure hnames

/-- The statements of a visited child are added to those of its directory. -/
lemma ensures_statementsOfEntry (h : Invariant config P D V) {st : Progress} {p : Path}
    {place : Location} {name : String} {e : Entry} {statements : List Statement} (hst : P st)
    (hp : D p place) (hex : Glob.isExcluded config.exclude name = false)
    (he : st.disk.entry? p place name = some e) (hel : e.isEligible = true)
    (hv : V e.path statements) : Ensures P (V p) (statementsOfEntry config e statements) := by
  unfold statementsOfEntry
  split_ifs with hempty
  · exact (h.ensures_tell rfl).bind fun _ _ => ensures_pure (h.nil hp)
  · refine ensures_pure (h.child hst hp hex he hel hv ?_)
    rintro hd rfl
    simp [hd] at hempty

/-- A directory with statements gets its index and keeps the invariant, also if the index cannot be
written. -/
lemma ensures_finishDirectory (h : Invariant config P D V) {p : Path} {place : Location}
    {statements : List Statement} (hp : D p place) (hv : V p statements) :
    Ensures P (fun _ => True) (finishDirectory config p statements) := by
  unfold finishDirectory
  split_ifs with hne
  · intro st hst
    rw [run_bind, run_get]
    simp only [run_bind, run_mk_pure, run_modify]
    cases hw : st.disk.writeIndex (p.child indexName) statements config.sort with
    | error f => exact ⟨hst, fun _ _ => trivial⟩
    | ok c => exact h.ensures_tell rfl _ (h.write hst hp hv (by simpa using hne) hw)
  · exact ensures_pure trivial

/-- What the children of a directory have led to may be put together. -/
lemma flatten (h : Invariant config P D V) {p : Path} {place : Location} (hp : D p place)
    {parts : List (List Statement)} (hparts : ∀ part ∈ parts, V p part) : V p parts.flatten := by
  induction parts with
  | nil => exact h.nil hp
  | cons part parts ih =>
    rw [List.flatten_cons]
    exact h.append hp (hparts part (by simp))
      (ih fun other hother => hparts other (by simp [hother]))

/-- What every event keeps a visit keeps, however deep it may go and whatever it comes to. -/
theorem ensures_visit (h : Invariant config P D V) (depth : ℕ) (p : Path) :
    Ensures P (V p) (visit config depth p) := by
  induction depth generalizing p with
  | zero =>
    unfold visit
    refine ensures_get_bind fun st hst => ?_
    dsimp only
    split_ifs with _ hdir hfile
    · exact ensures_throw _
    · obtain ⟨place, hr⟩ := Disk.isDirectory_iff.1 hdir
      exact ensures_pure (h.nil (h.directory hst hr))
    · exact h.ensures_visitSource (by simp_all)
    · exact ensures_throw _
  | succ depth ih =>
    unfold visit
    refine ensures_get_bind fun st hst => ?_
    dsimp only
    split_ifs with _ hdir hfile
    · exact ensures_throw _
    · obtain ⟨place, hr⟩ := Disk.isDirectory_iff.1 hdir
      have hp := h.directory hst hr
      rw [Disk.candidates_eq hr, mk_pure_ok, pure_bind]
      refine (ensures_mapM (Q := V p) fun name hname => ?_).bind fun parts hparts => ?_
      · have hex : Glob.isExcluded config.exclude name = false := by
          simpa using (List.mem_filter.1 hname).2
        -- the entry is made when its turn comes, from where the run is by then
        refine ensures_get_bind fun t ht => ?_
        split
        · rename_i e he
          split_ifs with hel
          · exact (ih e.path).bind fun statements hv =>
              h.ensures_statementsOfEntry ht hp hex he hel hv
          · exact ensures_pure (h.nil hp)
        · exact ensures_pure (h.nil hp)
      · have hv := h.flatten hp hparts
        exact (h.ensures_finishDirectory hp hv).bind fun _ _ => ensures_pure hv
    · exact h.ensures_visitSource (by simp_all)
    · exact ensures_throw _

end Invariant

end Run

end PackageIndex
