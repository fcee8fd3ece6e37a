import PackageIndex.Proofs.Reexports

/-!
# Where private names come from

Names lose their origin as they are passed on from directory to directory.  `mem_bound_aggregated`
gives it back: every name that the index of a directory lists is the name of something that
contributes to it, at any depth, or a source that contributes exposes it.

A source exposes a private name only if it asks for that: the name is among the texts of its first
listing, and listings count (`Source.mem_exposedNamesOf_private`).  So private names in an index are
names of files and directories, or they were listed on purpose (`generate_private_names`).
-/

namespace PackageIndex

namespace Source

/-! ## Sources -/

/-- A statement binds a name at the top level: it defines a function or a class of that name, or its
first target is the name or a tuple with the name directly inside. -/
def Stmt.Binds (name : String) : Stmt → Prop
  | .definition id => id = name
  | .assignment (target :: _) _ =>
    target = .name name ∨ ∃ elements, target = .tuple elements ∧ .name name ∈ elements
  | .assignment [] _ | .other => False

/-- The first statement that assigns to the listing name alone gives it a list with a text in it. -/
def Lists (body : List Stmt) (text : String) : Prop :=
  ∃ before elements later,
    body = before ++ .assignment [.name listingName] (.list elements) :: later ∧
    (∀ value, .assignment [.name listingName] value ∉ before) ∧ .text text ∈ elements

/-- Only a name has a name. -/
lemma Expr.name?_eq_some_iff {e : Expr} {id : String} : e.name? = some id ↔ e = .name id := by
  cases e <;> simp [Expr.name?]

/-- Only a text has a text as its value. -/
lemma Expr.text?_eq_some_iff {e : Expr} {value : String} :
    e.text? = some value ↔ e = .text value := by
  cases e <;> simp [Expr.text?]

/-- The candidates of a statement are the names that it binds. -/
lemma Stmt.mem_candidates {stmt : Stmt} {name : String} :
    name ∈ stmt.candidates ↔ stmt.Binds name := by
  rcases stmt with id | ⟨_ | ⟨target, targets⟩, value⟩ | _
  · simp [Stmt.candidates, Stmt.Binds, eq_comm]
  · simp [Stmt.candidates, Stmt.Binds]
  · cases target with
    | name id => simp [Stmt.candidates, Stmt.Binds, Expr.boundNames, eq_comm]
    | tuple elements =>
      simp [Stmt.candidates, Stmt.Binds, Expr.boundNames, Expr.name?_eq_some_iff]
    | _ => simp [Stmt.candidates, Stmt.Binds, Expr.boundNames]
  · simp [Stmt.candidates, Stmt.Binds]

/-- A statement is a listing if it assigns to the listing name alone. -/
lemma Stmt.listing?_eq_some_iff {stmt : Stmt} {value : Expr} :
    stmt.listing? = some value ↔ stmt = .assignment [.name listingName] value := by
  constructor
  · intro h
    unfold Stmt.listing? at h
    split at h
    · split_ifs at h with hid
      rw [hid, Option.some.inj h]
    · simp at h
  · rintro rfl
    simp [Stmt.listing?]

/-- The value that the first statement that assigns to the listing name alone gives it. -/
def FirstListing (body : List Stmt) (value : Expr) : Prop :=
  ∃ before later, body = before ++ .assignment [.name listingName] value :: later ∧
    ∀ earlier, .assignment [.name listingName] earlier ∉ before

/-- The first listing that is found is the first one in the module. -/
lemma findSome?_listing?_eq_some_iff {body : List Stmt} {value : Expr} :
    body.findSome? Stmt.listing? = some value ↔ FirstListing body value := by
  have hnone {before : List Stmt} : (∀ stmt ∈ before, stmt.listing? = none) ↔
      ∀ earlier, .assignment [.name listingName] earlier ∉ before := by
    constructor
    · intro h earlier hmem
      exact absurd (h _ hmem) (by simp [Stmt.listing?])
    · intro h stmt hmem
      cases hlisting : stmt.listing? with
      | none => rfl
      | some earlier =>
        rw [Stmt.listing?_eq_some_iff.1 hlisting] at hmem
        exact absurd hmem (h earlier)
  rw [List.findSome?_eq_some_iff]
  constructor
  · rintro ⟨before, stmt, later, hbody, hlisting, hbefore⟩
    rw [Stmt.listing?_eq_some_iff.1 hlisting] at hbody
    exact ⟨before, later, hbody, hnone.1 hbefore⟩
  · rintro ⟨before, later, hbody, hbefore⟩
    exact ⟨before, _, later, hbody, Stmt.listing?_eq_some_iff.2 rfl, hnone.2 hbefore⟩

/-- A module declares names exactly if its first listing is a list: the texts in it. -/
lemma declaredNames_eq_some_iff {body : List Stmt} {names : List String} :
    declaredNames body = some names ↔
      ∃ elements, FirstListing body (.list elements) ∧ elements.filterMap Expr.text? = names := by
  simp only [← findSome?_listing?_eq_some_iff]
  unfold declaredNames
  split
  · rename_i elements hfirst
    simp [hfirst]
  · rename_i hnot
    constructor
    · intro h
      simp at h
    · rintro ⟨elements, hfirst, -⟩
      exact absurd hfirst (hnot elements)

/-- The texts in a list are its elements. -/
lemma mem_filterMap_text? {elements : List Expr} {text : String} :
    text ∈ elements.filterMap Expr.text? ↔ .text text ∈ elements := by
  rw [List.mem_filterMap]
  constructor
  · rintro ⟨e, he, hvalue⟩
    rwa [Expr.text?_eq_some_iff.1 hvalue] at he
  · exact fun h => ⟨_, h, rfl⟩

/-- What the first listing of a module holds. -/
lemma exists_mem_declaredNames_iff {body : List Stmt} {text : String} :
    (∃ names, declaredNames body = some names ∧ text ∈ names) ↔ Lists body text := by
  simp only [declaredNames_eq_some_iff]
  constructor
  · rintro ⟨names, ⟨elements, ⟨before, later, hbody, hbefore⟩, rfl⟩, htext⟩
    exact ⟨before, elements, later, hbody, hbefore, mem_filterMap_text?.1 htext⟩
  · rintro ⟨before, elements, later, hbody, hbefore, htext⟩
    exact ⟨_, ⟨elements, ⟨before, later, hbody, hbefore⟩, rfl⟩, mem_filterMap_text?.2 htext⟩

/-- A private name is exposed exactly if listings count, the name is in the listing of the module,
and a statement binds it. -/
theorem mem_exposedNamesOf_private {body : List Stmt} {respectListing : Bool} {name : String}
    (hprivate : isPrivate name = true) : name ∈ exposedNamesOf body respectListing ↔
      respectListing = true ∧ (∃ stmt ∈ body, stmt.Binds name) ∧ Lists body name := by
  have hcandidates : name ∈ body.flatMap Stmt.candidates ↔ ∃ stmt ∈ body, stmt.Binds name := by
    simp only [List.mem_flatMap, Stmt.mem_candidates]
  have hexposed (declared : Option (List String)) : isExposed declared name = true ↔
      ∃ names, declared = some names ∧ name ∈ names := by
    cases declared <;> simp [isExposed, hprivate]
  rw [exposedNamesOf, List.mem_filter, hcandidates, hexposed]
  cases respectListing with
  | false => simp
  | true => simp [exists_mem_declaredNames_iff]

end Source

/-! ## Directories -/

namespace Disk

variable {d : Disk} {config : Config} {s t : Site} {e : Entry} {name : String}

/-- A child of a directory at or below another contributes to the index of that one: it is a source,
or a source lies below it. -/
structure Contributes (d : Disk) (exclude : List String) (s t : Site) (e : Entry) : Prop where
  reaches : d.Reaches exclude s t
  eligible : e ∈ d.eligible exclude t
  hasSource : e.isDirectory = true → d.HasSource exclude (t.child e.name)

/-- A name that a source exposes is one of the names in its tree. -/
lemma mem_exposed_iff {p : Path} : name ∈ d.exposed config p ↔
    ∃ body, d.parse p config.version = .ok (.module body) ∧
      name ∈ Source.exposedNamesOf body config.respectListing := by
  unfold exposed
  cases d.parse p config.version with
  | error f => simp
  | ok tree => cases tree <;> simp [Source.Tree.exposedNames]

/-- A child adds its own name and those that it passes on. -/
lemma mem_bound_statementsOfChild {stem : String} {statements : List Statement} :
    name ∈ (statementsOfChild stem statements).map Statement.bound ↔
      name = stem ∨ name ∈ statements.map Statement.bound := by
  simp [statementsOfChild, Statement.bound]

/-- What an index lists is what its children add. -/
lemma mem_bound_aggregated_iff : name ∈ (d.aggregated config s).map Statement.bound ↔
    ∃ e ∈ d.eligible config.exclude s,
      (e.isDirectory = true → d.HasSource config.exclude (s.child e.name)) ∧
      (name = e.moduleName ∨ name ∈ d.passedOn config s e) := by
  rw [aggregated_eq, List.map_flatMap, List.mem_flatMap]
  refine exists_congr fun e => and_congr_right fun _ => ?_
  unfold passedOn
  by_cases hd : e.isDirectory = true
  · by_cases hsource : d.HasSource config.exclude (s.child e.name)
    · rw [if_pos hd, if_pos hd, if_pos hsource, mem_bound_statementsOfChild]
      exact (and_iff_right fun _ => hsource).symm
    · simp [hd, hsource]
  · rw [if_neg hd, if_neg hd, mem_bound_statementsOfChild, List.map_map]
    simp [hd, Function.comp_def, Statement.bound]

/-- What the index of a directory lists is listed in the index of every directory above it. -/
lemma Reaches.mem_bound_aggregated (hs : d.Reaches config.exclude s t)
    (hname : name ∈ (d.aggregated config t).map Statement.bound) :
    name ∈ (d.aggregated config s).map Statement.bound := by
  induction hs with
  | refl => exact hname
  | @step t e hst he hd ih =>
    have hsource : d.HasSource config.exclude (t.child e.name) := by
      by_contra hnone
      rw [aggregated_eq_nil_iff.2 hnone] at hname
      simp at hname
    refine ih (mem_bound_aggregated_iff.2 ⟨e, he, fun _ => hsource, Or.inr ?_⟩)
    rwa [passedOn, if_pos hd]

/-- Every name that the index of a directory lists comes from something that contributes to it, at
any depth: it is the name of a directory or a source, or a source exposes it. -/
theorem mem_bound_aggregated : name ∈ (d.aggregated config s).map Statement.bound ↔
    ∃ t e, d.Contributes config.exclude s t e ∧
      (name = e.moduleName ∨ e.isDirectory = false ∧ name ∈ d.exposed config e.path) := by
  constructor
  · induction s using induction_eligible d config.exclude with
    | step s ih =>
      intro hname
      obtain ⟨e, he, hsource, hname | hname⟩ := mem_bound_aggregated_iff.1 hname
      · exact ⟨s, e, ⟨.refl, he, hsource⟩, Or.inl hname⟩
      · by_cases hd : e.isDirectory = true
        · rw [passedOn, if_pos hd] at hname
          obtain ⟨t, f, ⟨hreach, hf, hbelow⟩, horigin⟩ := ih e he hd hname
          exact ⟨t, f, ⟨(Reaches.refl.step he hd).trans hreach, hf, hbelow⟩, horigin⟩
        · rw [passedOn, if_neg hd] at hname
          exact ⟨s, e, ⟨.refl, he, hsource⟩, Or.inr ⟨by simpa using hd, hname⟩⟩
  · rintro ⟨t, e, ⟨hreach, he, hsource⟩, horigin⟩
    apply hreach.mem_bound_aggregated
    refine mem_bound_aggregated_iff.2 ⟨e, he, hsource, ?_⟩
    rcases horigin with hname | ⟨hd, hname⟩
    · exact Or.inl hname
    · right
      rwa [passedOn, if_neg (by simp [hd])]

end Disk

/-! ## Runs that return -/

variable {d : Disk} {config : Config} {place : Location} {statements : List Statement}

/-- A private name in an index that a run has written is the name of a directory or a source that
contributes to the index, at any depth; or listings count, and a source that contributes binds the
name and has it in its listing.  Every such name is in the index.  If listings do not count, private
names in an index are names of directories and sources only. -/
theorem generate_private_names (hn : d.HasNames)
    (hr : d.resolve config.root = .found place .directory) (hl : d.LinksAvoidIndexes place)
    (hok : (generate config d).1 = .ok statements) :
    ∀ p ∈ (generate config d).2.written, ∃ s,
      d.Reaches config.exclude ⟨config.root, place⟩ s ∧ p = s.path.child indexName ∧
      let index := Index.sections (d.aggregated config s) config.sort
      (d.node? (s.place ++ [indexName]) ≠ some .pipe →
        (generate config d).2.disk.read p = .ok index.text.toUTF8) ∧
      ∀ name, Source.isPrivate name = true → (name ∈ index.listing ↔
        (∃ t e, d.Contributes config.exclude s t e ∧ name = e.moduleName) ∨
        config.respectListing = true ∧ ∃ t e body, d.Contributes config.exclude s t e ∧
          e.isDirectory = false ∧ d.parse e.path config.version = .ok (.module body) ∧
          (∃ stmt ∈ body, stmt.Binds name) ∧ Source.Lists body name) := by
  intro p hp
  obtain ⟨s, hs, hsource, rfl⟩ := (mem_written_of_ok hn hr hl hok).1 hp
  refine ⟨s, hs, rfl, fun hpipe => ?_, fun name hprivate => ?_⟩
  · rw [read_index_of_ok hn hr hl hok hs hsource, if_neg hpipe, Index.render_eq_text]
  · have hlisting : name ∈ (Index.sections (d.aggregated config s) config.sort).listing ↔
        name ∈ (d.aggregated config s).map Statement.bound := Index.mem_listing
    rw [hlisting, Disk.mem_bound_aggregated]
    simp only [Disk.mem_exposed_iff, Source.mem_exposedNamesOf_private hprivate]
    constructor
    · rintro ⟨t, e, he, hname | ⟨hd, body, hparse, hrespect, hbinds, hlists⟩⟩
      · exact Or.inl ⟨t, e, he, hname⟩
      · exact Or.inr ⟨hrespect, t, e, body, he, hd, hparse, hbinds, hlists⟩
    · rintro (⟨t, e, he, hname⟩ | ⟨hrespect, t, e, body, he, hd, hparse, hbinds, hlists⟩)
      · exact ⟨t, e, he, Or.inl hname⟩
      · exact ⟨t, e, he, Or.inr ⟨hd, body, hparse, hrespect, hbinds, hlists⟩⟩

/-- A package with a private source that lists one of its two private names, and a private directory
around a source that lists nothing. -/
def hiddenDisk : Disk where
  entries := [(["p"], .directory),
    (["p", "_a.py"], .file "__all__ = ['_x']\n_x = 1\n_z = 2\n".toUTF8),
    (["p", "_q"], .directory), (["p", "_q", "b.py"], .file "_y = 1\n".toUTF8)]
  mentions := [["p"], ["p", "_a.py"], ["p", "_q"], ["p", "_q", "b.py"]]

/-- The index of the package lists the private source, the private directory and the private name
that is in a listing, and neither of the other two. -/
theorem generate_private_names_hiddenDisk :
    let index := Index.sections (hiddenDisk.aggregated twinConfig twinRoot) twinConfig.sort
    twinRoot.path.child indexName ∈ (generate twinConfig hiddenDisk).2.written ∧
      index.listing = ["_a", "_q", "_x", "b"] ∧
      ∀ name, Source.isPrivate name = true → (name ∈ index.listing ↔
        (∃ t e, hiddenDisk.Contributes [] twinRoot t e ∧ name = e.moduleName) ∨
        ∃ t e body, hiddenDisk.Contributes [] twinRoot t e ∧ e.isDirectory = false ∧
          hiddenDisk.parse e.path ⟨12⟩ = .ok (.module body) ∧
          (∃ stmt ∈ body, stmt.Binds name) ∧ Source.Lists body name) := by
  intro index
  have hok : (generate twinConfig hiddenDisk).1 = .ok [.module "_a", .member "_a" "_x",
      .module "_q", .member "_q" "b"] := by
    decide +kernel
  have hwritten : twinRoot.path.child indexName ∈ (generate twinConfig hiddenDisk).2.written := by
    decide +kernel
  have hroot : hiddenDisk.resolve twinConfig.root = .found ["p"] .directory := by decide +kernel
  obtain ⟨s, hs, hpath, -, hprivate⟩ := generate_private_names (by decide +kernel) hroot
    (by decide +kernel) hok _ hwritten
  obtain rfl : twinRoot = s := Disk.Reaches.refl.eq_of_path_eq hs (Path.child_left_inj.1 hpath)
  refine ⟨hwritten, by decide +kernel, fun name hname => ?_⟩
  rw [hprivate name hname]
  exact or_congr_right (and_iff_right rfl)

end PackageIndex
