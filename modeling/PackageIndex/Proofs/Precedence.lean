import PackageIndex.Proofs.PrivateNames

/-!
# What a source exposes

The statements at the top level of a source bind names.  `Occurrences` says which of them count, in
source order: a definition binds its name, and an assignment binds the names of its first target,
which is a name or a tuple with names directly inside.

One rule decides which occurrences are exposed.  If listings count, it is that of the first
statement that assigns to the listing name alone, provided that this is given a list; otherwise the
names that begin with a low line are left out.  `exposedNames_precedence` says that nothing else
plays a part: the occurrences that the rule selects are exposed, as often as they are there and in
their order.
Assignments that give the listing name and something else a value, or that unpack into it, never
decide the rule.
-/

namespace PackageIndex.Source

/-! ## Occurrences -/

/-- The bare names directly inside a display, in order. -/
inductive BareNames : List Expr → List String → Prop
  | nil : BareNames [] []
  | name {id elements ids} : BareNames elements ids → BareNames (.name id :: elements) (id :: ids)
  | skip {e elements ids} : (∀ id, e ≠ .name id) → BareNames elements ids →
      BareNames (e :: elements) ids

/-- The occurrences of names that the statements of a module bind, in source order. -/
inductive Occurrences : List Stmt → List String → Prop
  | nil : Occurrences [] []
  | definition {name body names} : Occurrences body names →
      Occurrences (.definition name :: body) (name :: names)
  | name {id targets value body names} : Occurrences body names →
      Occurrences (.assignment (.name id :: targets) value :: body) (id :: names)
  | tuple {elements targets value ids body names} : BareNames elements ids →
      Occurrences body names →
      Occurrences (.assignment (.tuple elements :: targets) value :: body) (ids ++ names)
  | skip {stmt body names} : (∀ name, ¬ stmt.Binds name) → Occurrences body names →
      Occurrences (stmt :: body) names

/-- The bare names among some elements are their names, in order. -/
lemma bareNames_iff {elements : List Expr} {ids : List String} :
    BareNames elements ids ↔ ids = elements.filterMap Expr.name? := by
  constructor
  · intro h
    induction h with
    | nil => rfl
    | name _ ih => rw [ih]; rfl
    | @skip e elements ids hskip _ ih =>
      have hnone : e.name? = none := by
        cases hname : e.name? with
        | none => rfl
        | some id => exact absurd (Expr.name?_eq_some_iff.1 hname) (hskip id)
      rw [List.filterMap_cons_none hnone, ih]
  · rintro rfl
    induction elements with
    | nil => exact .nil
    | cons e elements ih =>
      cases hname : e.name? with
      | none =>
        rw [List.filterMap_cons_none hname]
        refine .skip (fun id hid => ?_) ih
        rw [Expr.name?_eq_some_iff.2 hid] at hname
        simp at hname
      | some id =>
        rw [List.filterMap_cons_some hname, Expr.name?_eq_some_iff.1 hname]
        exact .name ih

/-- A statement without candidates binds nothing. -/
lemma Stmt.candidates_eq_nil_iff {stmt : Stmt} :
    stmt.candidates = [] ↔ ∀ name, ¬ stmt.Binds name := by
  rw [List.eq_nil_iff_forall_not_mem]
  exact forall_congr' fun name => not_congr Stmt.mem_candidates

/-- Every module has one list of occurrences: the candidates of its statements. -/
theorem occurrences_iff {body : List Stmt} {names : List String} :
    Occurrences body names ↔ names = body.flatMap Stmt.candidates := by
  constructor
  · intro h
    induction h with
    | nil => rfl
    | definition _ ih => rw [ih]; rfl
    | name _ ih => rw [ih]; rfl
    | tuple hids _ ih => rw [ih, bareNames_iff.1 hids]; rfl
    | skip hskip _ ih => rw [List.flatMap_cons, Stmt.candidates_eq_nil_iff.2 hskip, ih]; rfl
  · rintro rfl
    induction body with
    | nil => exact .nil
    | cons stmt body ih =>
      rw [List.flatMap_cons]
      by_cases hskip : stmt.candidates = []
      · rw [hskip]
        exact .skip (Stmt.candidates_eq_nil_iff.1 hskip) ih
      · rcases stmt with name | ⟨_ | ⟨target, targets⟩, value⟩ | _
        · exact .definition ih
        · exact absurd rfl hskip
        · cases target with
          | name id => exact .name ih
          | tuple elements => exact .tuple (bareNames_iff.2 rfl) ih
          | _ => exact absurd rfl hskip
        · exact absurd rfl hskip

/-! ## Selections -/

/-- Those of some occurrences that satisfy a condition: each as often as it is there, and all in the
same order. -/
structure Selects (kept : String → Prop) (occurrences names : List String) : Prop where
  sublist : names.Sublist occurrences
  count_eq : ∀ name, kept name → names.count name = occurrences.count name
  not_mem : ∀ name, ¬ kept name → name ∉ names

/-- The occurrences that satisfy a condition are all that are left when the others are filtered
out. -/
lemma selects_iff {kept : String → Prop} {keep : String → Bool}
    (h : ∀ name, keep name = true ↔ kept name) {occurrences names : List String} :
    Selects kept occurrences names ↔ occurrences.filter keep = names := by
  constructor
  · intro hs
    induction occurrences generalizing names with
    | nil => exact (List.sublist_nil.1 hs.sublist).symm
    | cons a occurrences ih =>
      obtain ⟨hsub, hcount, hmem⟩ := hs
      rcases List.sublist_cons_iff.1 hsub with hskip | ⟨names, rfl, htake⟩
      · -- the first occurrence is left out, so that it cannot satisfy the condition
        have ha : ¬ kept a := by
          intro ha
          have hle : names.count a ≤ occurrences.count a := hskip.count_le a
          have heq := hcount a ha
          rw [List.count_cons_self] at heq
          omega
        rw [List.filter_cons_of_neg (fun hkeep => ha ((h a).1 hkeep))]
        refine ih ⟨hskip, fun name hname => ?_, hmem⟩
        have hne : a ≠ name := fun heq => ha (heq ▸ hname)
        rw [hcount name hname, List.count_cons_of_ne hne]
      · have ha : kept a := by
          by_contra ha
          exact hmem a ha (List.mem_cons_self ..)
        rw [List.filter_cons_of_pos ((h a).2 ha)]
        congr 1
        refine ih ⟨htake, fun name hname => ?_, fun name hname hin => ?_⟩
        · have heq := hcount name hname
          rw [List.count_cons, List.count_cons] at heq
          omega
        · exact hmem name hname (List.mem_cons_of_mem a hin)
  · rintro rfl
    exact {
      sublist := List.filter_sublist
      count_eq := fun name hname => List.count_filter ((h name).2 hname)
      not_mem := fun name hname hmem => hname ((h name).1 (List.mem_filter.1 hmem).2) }

/-! ## The rule -/

variable {body : List Stmt} {respectListing : Bool}

/-- The listing that counts for a module: its texts, if listings count and the first one is a
list. -/
def ruling (body : List Stmt) (respectListing : Bool) : Option (List String) :=
  if respectListing then declaredNames body else none

/-- A module exposes those of its candidates that the rule lets through. -/
lemma exposedNames_module (body : List Stmt) (respectListing : Bool) :
    (Tree.module body).exposedNames respectListing =
      (body.flatMap Stmt.candidates).filter (isExposed (ruling body respectListing)) := rfl

/-- If the first listing counts and is a list, the texts in it are exposed. -/
lemma isExposed_ruling_of_list {elements : List Expr} (hrespect : respectListing = true)
    (hfirst : FirstListing body (.list elements)) (name : String) :
    isExposed (ruling body respectListing) name = true ↔ .text name ∈ elements := by
  have hruling : ruling body respectListing = some (elements.filterMap Expr.text?) := by
    rw [ruling, if_pos hrespect]
    exact declaredNames_eq_some_iff.2 ⟨elements, hfirst, rfl⟩
  rw [hruling, isExposed, List.contains_iff_mem]
  exact mem_filterMap_text?

/-- Otherwise every name that does not begin with a low line is exposed. -/
lemma isExposed_ruling_of_not_list
    (h : ∀ elements, respectListing = true → ¬ FirstListing body (.list elements))
    (name : String) :
    isExposed (ruling body respectListing) name = true ↔ name.toList.head? ≠ some '_' := by
  have hruling : ruling body respectListing = none := by
    unfold ruling
    split_ifs with hrespect
    · cases hdeclared : declaredNames body with
      | none => rfl
      | some names =>
        obtain ⟨elements, hfirst, -⟩ := declaredNames_eq_some_iff.1 hdeclared
        exact absurd hfirst (h elements hrespect)
    · rfl
  rw [hruling]
  simp [isExposed, isPrivate]

/-- A statement that assigns to anything but the listing name alone has no part in the rule. -/
lemma ruling_insert {stmt : Stmt}
    (h : ∀ value, stmt ≠ .assignment [.name listingName] value) (before later : List Stmt)
    (respectListing : Bool) :
    ruling (before ++ stmt :: later) respectListing = ruling (before ++ later) respectListing := by
  have hnone : stmt.listing? = none := by
    cases hlisting : stmt.listing? with
    | none => rfl
    | some value => exact absurd (Stmt.listing?_eq_some_iff.1 hlisting) (h value)
  have hfirst : (before ++ stmt :: later).findSome? Stmt.listing? =
      (before ++ later).findSome? Stmt.listing? := by
    rw [List.findSome?_append, List.findSome?_append, List.findSome?_cons, hnone]
  unfold ruling declaredNames
  rw [hfirst]

/-- A module exposes the occurrences of names that its rule selects, each as often as it is there
and all in their order.  If listings count and the first statement that assigns to the listing name
alone gives it a list, then the rule is to be a text in that list, whatever the name looks like.  In
all other cases it is not to begin with a low line.  A statement that assigns to anything but the
listing name alone only adds exposed occurrences of its own: it decides nothing about the others. -/
theorem exposedNames_precedence (body : List Stmt) (respectListing : Bool) :
    let exposed (body : List Stmt) := (Tree.module body).exposedNames respectListing
    ∃ occurrences, Occurrences body occurrences ∧
      (∀ others, Occurrences body others → others = occurrences) ∧
      (∀ elements, respectListing = true → FirstListing body (.list elements) →
        ∀ names, Selects (.text · ∈ elements) occurrences names ↔ exposed body = names) ∧
      ((∀ elements, respectListing = true → ¬ FirstListing body (.list elements)) →
        ∀ names, Selects (·.toList.head? ≠ some '_') occurrences names ↔ exposed body = names) ∧
      ∀ before stmt later, body = before ++ stmt :: later →
        (∀ value, stmt ≠ .assignment [.name listingName] value) →
        ∃ front added back own, exposed body = front ++ added ++ back ∧
          exposed (before ++ later) = front ++ back ∧
          Occurrences [stmt] own ∧ added.Sublist own := by
  intro exposed
  refine ⟨body.flatMap Stmt.candidates, occurrences_iff.2 rfl, fun others => occurrences_iff.1,
    ?_, ?_, ?_⟩
  · intro elements hrespect hfirst names
    exact selects_iff (isExposed_ruling_of_list hrespect hfirst)
  · intro hnone names
    exact selects_iff (isExposed_ruling_of_not_list hnone)
  · intro before stmt later hbody hstmt
    have hrule := ruling_insert hstmt before later respectListing
    let keep := isExposed (ruling (before ++ later) respectListing)
    refine ⟨(before.flatMap Stmt.candidates).filter keep, stmt.candidates.filter keep,
      (later.flatMap Stmt.candidates).filter keep, stmt.candidates, ?_, ?_, ?_,
      List.filter_sublist⟩
    · change (Tree.module body).exposedNames respectListing = _
      rw [exposedNames_module, hbody, hrule]
      simp [keep]
    · change (Tree.module (before ++ later)).exposedNames respectListing = _
      rw [exposedNames_module, List.flatMap_append, List.filter_append]
    · exact occurrences_iff.2 (by simp)

/-- A module with listings of several forms: one that is assigned together with another name and one
that is unpacked come before the one that decides, and one that is no list comes after it. -/
def relistedBody : List Stmt :=
  [.assignment [.name listingName, .name "alias"] (.list [.text "alias"]),
    .assignment [.tuple [.name listingName, .name "f"]] (.list [.text "f"]),
    .definition "f", .assignment [.tuple [.name "_x", .starred (.name "s"), .name "y"]] .other,
    .assignment [.name listingName]
      (.list [.text "_x", .other, .text "gone", .text listingName]),
    .definition "_x", .assignment [.name listingName] (.tuple [])]

/-- The module exposes the private name and the listing name as often as they are bound, and neither
the public names that are bound nor the name that is listed only.  If listings do not count, then it
exposes the public names. -/
theorem exposedNames_precedence_relistedBody :
    FirstListing relistedBody (.list [.text "_x", .other, .text "gone", .text listingName]) ∧
      ∃ occurrences, Occurrences relistedBody occurrences ∧
        Selects (.text · ∈ [Expr.text "_x", .other, .text "gone", .text listingName]) occurrences
          [listingName, listingName, "_x", listingName, "_x", listingName] ∧
        Selects (·.toList.head? ≠ some '_') occurrences ["f", "f", "y"] := by
  have hfirst : FirstListing relistedBody
      (.list [.text "_x", .other, .text "gone", .text listingName]) :=
    ⟨relistedBody.take 4, relistedBody.drop 5, rfl, fun value hvalue => by
      simp [relistedBody] at hvalue⟩
  obtain ⟨occurrences, ho, -, hlist, -, -⟩ := exposedNames_precedence relistedBody true
  obtain ⟨others, hothers, -, -, hplain, -⟩ := exposedNames_precedence relistedBody false
  obtain rfl : occurrences = others := by
    rw [occurrences_iff.1 ho, occurrences_iff.1 hothers]
  refine ⟨hfirst, occurrences, ho, ?_, ?_⟩
  · exact (hlist _ rfl hfirst _).2 (by decide)
  · exact (hplain (by simp) _).2 (by decide)

end PackageIndex.Source
