import PackageIndex.Index.Render
import Mathlib

/-!
# Sections of an index

An index has three sections: the modules that it imports, the names that it imports out of modules,
which are grouped by module, and the listing.  Its text is put together from these
(`render_eq_text`), and they are read off its statements.

Sorting and grouping neither lose nor invent anything: `imported_perm` says that everything that an
index imports, in the order of its lines, is what its statements bind, as often as they do.  A
module has one group at most, and `filter_groups_of_mem` says what it holds.

If an index is sorted, its text does not depend on the order of its statements
(`render_eq_of_perm`).
-/

namespace PackageIndex.Index

/-- The first line is ended by a newline. -/
lemma unlines_cons (l : String) (ls : List String) :
    unlines (l :: ls) = l ++ "\n" ++ unlines ls := by
  rw [unlines, List.map_cons, String.join_cons]
  rfl

/-- What an index holds: the modules that it imports, the names that it imports out of modules, by
module, and the names that it lists. -/
structure Sections where
  imports : List String
  groups : List (String × List String)
  listing : List String
deriving DecidableEq, Repr

namespace Sections

/-- The lines of an index with these sections. -/
def lines (i : Sections) : List String :=
  i.imports.map importLine ++ [""] ++ i.groups.flatMap groupLines ++ [""] ++ ["__all__ = ["] ++
    i.listing.map listingLine ++ ["]"]

/-- The text of an index with these sections. -/
def text (i : Sections) : String := unlines i.lines

/-- Everything that an index imports, in the order of its lines. -/
def imported (i : Sections) : List String := i.imports ++ i.groups.flatMap Prod.snd

/-- A group stands in the text as it is. -/
lemma groupLines_infix_lines {i : Sections} {group : String × List String} (h : group ∈ i.groups) :
    groupLines group <:+: i.lines := by
  obtain ⟨before, after, hgroups⟩ := List.append_of_mem h
  refine ⟨i.imports.map importLine ++ [""] ++ before.flatMap groupLines,
    after.flatMap groupLines ++ [""] ++ ["__all__ = ["] ++ i.listing.map listingLine ++ ["]"], ?_⟩
  simp [lines, hgroups]

end Sections

/-- The sections of the index of some statements. -/
def sections (statements : List Statement) (sort : Bool) : Sections where
  imports := imports statements sort
  groups := groups statements sort
  listing := listing statements sort

/-- The text of an index is that of its sections. -/
lemma render_eq_text (statements : List Statement) (sort : Bool) :
    render statements sort = (sections statements sort).text := rfl

/-- The names that an index imports out of a module, in the order of its lines. -/
def attributes (statements : List Statement) (sort : Bool) (source : String) : List String :=
  ((members statements sort).filter (·.1 == source)).map Prod.snd

/-- The name that a statement imports out of a given module. -/
def attributeOf? (source : String) (s : Statement) : Option String :=
  (s.member?.filter (·.1 == source)).map Prod.snd

variable {statements others : List Statement} {sort : Bool} {source : String}

/-! ## Imports and members -/

/-- Sorting the imported modules loses none. -/
lemma imports_perm (statements : List Statement) (sort : Bool) :
    (imports statements sort).Perm (statements.filterMap Statement.module?) := by
  cases sort
  · exact List.Perm.refl _
  · exact List.mergeSort_perm _ _

/-- Sorting the attributes loses none. -/
lemma members_perm (statements : List Statement) (sort : Bool) :
    (members statements sort).Perm (statements.filterMap Statement.member?) := by
  cases sort
  · exact List.Perm.refl _
  · exact List.mergeSort_perm _ _

/-- A module is imported if a statement says so. -/
lemma mem_imports {name : String} :
    name ∈ imports statements sort ↔ .module name ∈ statements := by
  rw [(imports_perm statements sort).mem_iff, List.mem_filterMap]
  constructor
  · rintro ⟨s, hs, hname⟩
    cases s <;> simp_all [Statement.module?]
  · exact fun h => ⟨_, h, rfl⟩

/-- Statements import modules, or names out of modules. -/
lemma perm_parts (statements : List Statement) :
    statements.Perm ((statements.filterMap Statement.module?).map .module ++
      (statements.filterMap Statement.member?).map fun p => .member p.1 p.2) := by
  induction statements with
  | nil => exact List.Perm.refl _
  | cons s statements ih =>
    cases s with
    | module name => exact ih.cons _
    | member source attr => exact (ih.cons _).trans List.perm_middle.symm

/-- The names that statements bind are those of the modules and of the members. -/
lemma map_bound_perm (statements : List Statement) :
    (statements.map Statement.bound).Perm (statements.filterMap Statement.module? ++
      (statements.filterMap Statement.member?).map Prod.snd) := by
  have h := (perm_parts statements).map Statement.bound
  rw [List.map_append, List.map_map, List.map_map] at h
  simpa [Function.comp_def, Statement.bound] using h

/-! ## Groups -/

variable {pairs : List (String × String)} {key : String}

/-- The first group belongs to the first pair, and the others to the pairs with other keys. -/
lemma groupPairs_cons (p : String × String) (pairs : List (String × String)) :
    groupPairs (p :: pairs) = (p.1, p.2 :: (pairs.filter (·.1 == p.1)).map Prod.snd) ::
      groupPairs (pairs.filter (! ·.1 == p.1)) := by
  unfold groupPairs
  rw [List.map_cons, List.eraseDups_cons, List.map_cons, List.filter_cons_of_pos (by simp),
    List.map_cons, List.filter_map]
  congr 1
  refine List.map_congr_left fun key hkey => ?_
  have hne : key ≠ p.1 := by
    rw [List.mem_eraseDups, List.mem_map] at hkey
    obtain ⟨q, hq, rfl⟩ := hkey
    simpa using (List.mem_filter.1 hq).2
  have hpairs : pairs.filter (·.1 == key) =
      (pairs.filter (! ·.1 == p.1)).filter (·.1 == key) := by
    rw [List.filter_filter]
    refine List.filter_congr fun q _ => ?_
    by_cases hq : q.1 = key <;> simp [hq, hne]
  rw [List.filter_cons_of_neg (by simpa using hne.symm), hpairs]

/-- Induction along groups: what follows for some pairs from those with other keys than the first
one holds of all lists of pairs. -/
theorem groupPairs_induction {motive : List (String × String) → Prop} (nil : motive [])
    (cons : ∀ p pairs, motive (pairs.filter (! ·.1 == p.1)) → motive (p :: pairs))
    (pairs : List (String × String)) : motive pairs := by
  induction hn : pairs.length using Nat.strong_induction_on generalizing pairs with
  | _ n ih =>
    cases pairs with
    | nil => exact nil
    | cons p pairs =>
      have hle := List.length_filter_le (! ·.1 == p.1) pairs
      rw [List.length_cons] at hn
      exact cons p pairs (ih _ (by omega) _ rfl)

/-- Grouping pairs keeps them: each is there with the key of its group. -/
lemma pairs_groupPairs_perm (pairs : List (String × String)) :
    ((groupPairs pairs).flatMap fun group => group.2.map (group.1, ·)).Perm pairs := by
  induction pairs using groupPairs_induction with
  | nil => exact List.Perm.refl _
  | cons p pairs ih =>
    have hfirst : (pairs.filter (·.1 == p.1)).map (fun q => (p.1, q.2)) =
        pairs.filter (·.1 == p.1) := by
      refine (List.map_congr_left fun q hq => ?_).trans (List.map_id _)
      rw [← beq_iff_eq.1 (List.mem_filter.1 hq).2]
      rfl
    rw [groupPairs_cons, List.flatMap_cons, List.map_cons, List.map_map, List.cons_append]
    refine List.Perm.cons p ((ih.append_left _).trans ?_)
    rw [Function.comp_def, hfirst]
    exact List.filter_append_perm (·.1 == p.1) pairs

/-- Grouping pairs keeps their second components. -/
lemma flatMap_groupPairs_perm (pairs : List (String × String)) :
    ((groupPairs pairs).flatMap Prod.snd).Perm (pairs.map Prod.snd) := by
  have hmap : (groupPairs pairs).flatMap Prod.snd =
      ((groupPairs pairs).flatMap fun group => group.2.map (group.1, ·)).map Prod.snd := by
    rw [List.map_flatMap]
    exact List.flatMap_congr fun group _ => by simp [Function.comp_def]
  rw [hmap]
  exact (pairs_groupPairs_perm pairs).map Prod.snd

/-- There is one group for each key, and it holds all that comes with the key. -/
lemma filter_groupPairs (pairs : List (String × String)) (key : String) :
    (groupPairs pairs).filter (·.1 == key) = if key ∈ pairs.map Prod.fst then
      [(key, (pairs.filter (·.1 == key)).map Prod.snd)] else [] := by
  induction pairs using groupPairs_induction with
  | nil => rfl
  | cons p pairs ih =>
    rw [groupPairs_cons]
    by_cases hp : p.1 = key
    · subst hp
      rw [List.filter_cons_of_pos (by simp), ih, if_neg (by simp), if_pos (by simp),
        List.filter_cons_of_pos (by simp), List.map_cons]
    · have hpairs : (pairs.filter (! ·.1 == p.1)).filter (·.1 == key) =
          pairs.filter (·.1 == key) := by
        rw [List.filter_filter]
        refine List.filter_congr fun q _ => ?_
        by_cases hq : q.1 = key <;> simp [hq, Ne.symm hp]
      have hmem : key ∈ (pairs.filter (! ·.1 == p.1)).map Prod.fst ↔
          key ∈ (p :: pairs).map Prod.fst := by
        simp only [List.mem_map, List.mem_filter, List.mem_cons]
        grind
      rw [List.filter_cons_of_neg (by simpa using hp), ih, hpairs,
        List.filter_cons_of_neg (by simpa using hp)]
      simp only [hmem]

/-- The names that statements import out of a module are those in their pairs with the module. -/
lemma filterMap_attributeOf? (statements : List Statement) (source : String) :
    statements.filterMap (attributeOf? source) =
      ((statements.filterMap Statement.member?).filter (·.1 == source)).map Prod.snd := by
  rw [List.filter_filterMap, List.map_filterMap]
  rfl

/-- The names that an index imports out of a module are those that its statements do. -/
lemma attributes_perm (statements : List Statement) (sort : Bool) (source : String) :
    (attributes statements sort source).Perm (statements.filterMap (attributeOf? source)) := by
  rw [filterMap_attributeOf?]
  exact ((members_perm statements sort).filter _).map Prod.snd

/-- A module that a name is imported out of has exactly one group. -/
lemma filter_groups_of_mem {attr : String} (h : .member source attr ∈ statements) :
    (groups statements sort).filter (·.1 == source) =
      [(source, attributes statements sort source)] := by
  rw [groups, filter_groupPairs, if_pos, attributes]
  rw [List.mem_map]
  refine ⟨(source, attr), ?_, rfl⟩
  rw [(members_perm statements sort).mem_iff]
  exact List.mem_filterMap.2 ⟨_, h, rfl⟩

/-! ## The listing -/

/-- An index imports what its statements bind, as often as they do. -/
theorem imported_perm (statements : List Statement) (sort : Bool) :
    (sections statements sort).imported.Perm (statements.map Statement.bound) := by
  have hmembers : ((groups statements sort).flatMap Prod.snd).Perm
      ((statements.filterMap Statement.member?).map Prod.snd) :=
    (flatMap_groupPairs_perm _).trans ((members_perm statements sort).map Prod.snd)
  exact ((imports_perm statements sort).append hmembers).trans (map_bound_perm statements).symm

/-- The listing names everything that the statements bind. -/
lemma mem_listing {name : String} :
    name ∈ listing statements sort ↔ name ∈ statements.map Statement.bound := by
  rw [listing, List.mem_eraseDups, ← (imported_perm statements sort).mem_iff]
  rfl

/-! ## The order of statements -/

/-- Pairs are sorted by their first parts, and then by their second. -/
lemma pairLe_iff {p q : String × String} : pairLe p q = true ↔ toLex p ≤ toLex q := by
  rw [Prod.Lex.toLex_le_toLex]
  simp [pairLe]

/-- The modules of a sorted index are sorted. -/
lemma pairwise_imports (statements : List Statement) :
    (imports statements true).Pairwise (· ≤ ·) :=
  List.pairwise_mergeSort' (· ≤ ·) (statements.filterMap Statement.module?)

/-- The members of a sorted index are sorted by their modules, and those of a module by name. -/
lemma pairwise_members (statements : List Statement) :
    (members statements true).Pairwise fun p q => toLex p ≤ toLex q := by
  have h : (members statements true).Pairwise fun p q => pairLe p q = true := by
    refine List.pairwise_mergeSort (fun p q r => ?_) (fun p q => ?_) _
    · rw [pairLe_iff, pairLe_iff, pairLe_iff]
      exact le_trans
    · rw [Bool.or_eq_true, pairLe_iff, pairLe_iff]
      exact le_total _ _
  exact h.imp pairLe_iff.1

/-- Sorted lists of the same names are the same. -/
lemma imports_eq_of_perm (h : statements.Perm others) :
    imports statements true = imports others true := by
  refine List.Perm.eq_of_pairwise (fun a b _ _ => le_antisymm) (pairwise_imports statements)
    (pairwise_imports others) ?_
  exact (imports_perm statements true).trans
    ((h.filterMap _).trans (imports_perm others true).symm)

/-- Sorted lists of the same pairs are the same. -/
lemma members_eq_of_perm (h : statements.Perm others) :
    members statements true = members others true := by
  refine List.Perm.eq_of_pairwise (fun p q _ _ hpq hqp => ?_) (pairwise_members statements)
    (pairwise_members others) ?_
  · exact toLex.injective (le_antisymm hpq hqp)
  · exact (members_perm statements true).trans
      ((h.filterMap _).trans (members_perm others true).symm)

/-- The text of a sorted index does not depend on the order of the statements. -/
theorem render_eq_of_perm (h : statements.Perm others) :
    render statements true = render others true := by
  unfold render lines listing groups
  rw [imports_eq_of_perm h, members_eq_of_perm h]

end PackageIndex.Index
