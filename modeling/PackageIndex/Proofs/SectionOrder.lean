import PackageIndex.Proofs.Decoding

/-!
# The order of sections

What an index imports can be read off its text, line by line.  The lines before the listing are
those of its imports and of its groups, and nothing is lost or added there
(`render_orders_sections`): each imported module has a line for each time it is imported, and each
module that names are imported out of has one group, with a line for each time that a name is
imported out of it.  If the index is sorted, then all three sections are, by code points; otherwise
names keep the order of the statements, and groups come in the order in which their modules are
first used.

The listing names everything that these lines import, once, in the order in which names first
appear there (`render_lists_imported`).

Both rest on what erasing repetitions does to an order: what is left stands in the order of first
occurrences (`pairwise_findIdx_eraseDups`), and increases strictly if the list was sorted
(`pairwise_lt_eraseDups`).
-/

namespace PackageIndex.Index

/-! ## Erasing repetitions -/

section EraseDups

variable {α β : Type*} [BEq β] [LawfulBEq β]

/-- Erasing repetitions at the end: a new last element stays, and one that was there before goes. -/
lemma eraseDups_concat (l : List β) (b : β) :
    (l ++ [b]).eraseDups = if b ∈ l then l.eraseDups else l.eraseDups ++ [b] := by
  have hsingle : [b].eraseDups = [b] := by simp [List.eraseDups_cons]
  rw [List.eraseDups_append]
  split_ifs with hb <;> simp [List.removeAll, hb, hsingle]

/-- Erasing repetitions only leaves elements out. -/
lemma eraseDups_sublist (l : List β) : l.eraseDups.Sublist l := by
  induction l using List.reverseRecOn with
  | nil => simp
  | append_singleton l b ih =>
    rw [eraseDups_concat]
    split_ifs
    · exact ih.trans (List.sublist_append_left l [b])
    · exact ih.append (List.Sublist.refl [b])

/-- Values of the elements of a list come in the order of the first elements that have them, once
repetitions are erased. -/
lemma pairwise_findIdx_eraseDups (f : α → Option β) (l : List α) :
    (l.filterMap f).eraseDups.Pairwise fun a b =>
      l.findIdx (f · == some a) < l.findIdx (f · == some b) := by
  induction l using List.reverseRecOn with
  | nil => simp
  | append_singleton l x ih =>
    -- the values that were there before are found where they were
    have hold : ∀ a ∈ (l.filterMap f).eraseDups,
        (l ++ [x]).findIdx (f · == some a) = l.findIdx (f · == some a) ∧
          l.findIdx (f · == some a) < l.length := by
      intro a ha
      rw [List.mem_eraseDups, List.mem_filterMap] at ha
      obtain ⟨y, hy, hya⟩ := ha
      have hlt : l.findIdx (f · == some a) < l.length :=
        List.findIdx_lt_length.2 ⟨y, hy, by simp [hya]⟩
      exact ⟨by rw [List.findIdx_append, if_pos hlt], hlt⟩
    have hsame : (l.filterMap f).eraseDups.Pairwise fun a b =>
        (l ++ [x]).findIdx (f · == some a) < (l ++ [x]).findIdx (f · == some b) := by
      refine ih.imp_of_mem ?_
      intro a b ha hb hab
      rwa [(hold a ha).1, (hold b hb).1]
    rw [List.filterMap_append]
    cases hx : f x with
    | none => simpa [hx] using hsame
    | some b =>
      rw [List.filterMap_cons_some hx, List.filterMap_nil, eraseDups_concat]
      split_ifs with hb
      · exact hsame
      · have hnew : (l ++ [x]).findIdx (f · == some b) = l.length := by
          have hnot : ¬ l.findIdx (f · == some b) < l.length := by
            intro hlt
            obtain ⟨y, hy, hyb⟩ := List.findIdx_lt_length.1 hlt
            exact hb (List.mem_filterMap.2 ⟨y, hy, by simpa using hyb⟩)
          rw [List.findIdx_append, if_neg hnot]
          simp [hx]
        rw [List.pairwise_append]
        refine ⟨hsame, List.pairwise_singleton _ b, ?_⟩
        intro a ha c hc
        rw [List.mem_singleton.1 hc, hnew, (hold a ha).1]
        exact (hold a ha).2

/-- The elements of a list come in the order of their first occurrences, once repetitions are
erased. -/
lemma pairwise_idxOf_eraseDups (l : List β) :
    l.eraseDups.Pairwise fun a b => l.idxOf a < l.idxOf b := by
  have h := pairwise_findIdx_eraseDups some l
  simpa [List.idxOf] using h

/-- A sorted list increases strictly once repetitions are erased. -/
lemma pairwise_lt_eraseDups [PartialOrder β] {l : List β} (h : l.Pairwise (· ≤ ·)) :
    l.eraseDups.Pairwise (· < ·) := by
  have hle : l.eraseDups.Pairwise (· ≤ ·) := h.sublist (eraseDups_sublist l)
  have hne : l.eraseDups.Pairwise (· ≠ ·) := Disk.nodup_eraseDups l
  exact hle.imp₂ (fun _ _ => lt_of_le_of_ne) hne

end EraseDups

/-! ## Counting -/

variable {statements : List Statement} {sort : Bool}

/-- What is read out of statements is there as often as the one statement that it is read out of. -/
lemma count_filterMap {f : Statement → Option String} {name : String} {s : Statement}
    (h : ∀ x, f x = some name ↔ x = s) (statements : List Statement) :
    (statements.filterMap f).count name = statements.count s := by
  rw [List.count, List.countP_filterMap, List.count]
  refine List.countP_congr fun x _ => ?_
  rw [beq_iff_eq, ← h x]
  cases f x <;> simp

/-- A module has as many lines as statements import it. -/
lemma count_imports (statements : List Statement) (sort : Bool) (name : String) :
    (imports statements sort).count name = statements.count (.module name) := by
  rw [(imports_perm statements sort).count_eq]
  refine count_filterMap (fun x => ?_) statements
  cases x <;> simp [Statement.module?]

/-- A name has as many lines in the group of a module as statements import it out of the module. -/
lemma count_attributes (statements : List Statement) (sort : Bool) (source attr : String) :
    (attributes statements sort source).count attr = statements.count (.member source attr) := by
  rw [(attributes_perm statements sort source).count_eq]
  refine count_filterMap (fun x => ?_) statements
  cases x <;> simp [attributeOf?, Statement.member?]

/-! ## Groups -/

/-- The modules of the groups, without repetitions. -/
lemma map_fst_groups (statements : List Statement) (sort : Bool) :
    (groups statements sort).map Prod.fst =
      ((members statements sort).map Prod.fst).eraseDups := by
  simp [groups, groupPairs, Function.comp_def]

/-- A group holds what is imported out of its module. -/
lemma snd_of_mem_groups {group : String × List String} (h : group ∈ groups statements sort) :
    group.2 = attributes statements sort group.1 := by
  obtain ⟨key, -, rfl⟩ := List.mem_map.1 h
  rfl

/-- The modules with groups are those that names are imported out of. -/
lemma mem_map_fst_groups {source : String} :
    source ∈ (groups statements sort).map Prod.fst ↔
      ∃ attr, .member source attr ∈ statements := by
  rw [map_fst_groups, List.mem_eraseDups, List.mem_map]
  constructor
  · rintro ⟨p, hp, rfl⟩
    rw [(members_perm statements sort).mem_iff, List.mem_filterMap] at hp
    obtain ⟨x, hx, hpair⟩ := hp
    cases x with
    | module name => simp [Statement.member?] at hpair
    | member source attr =>
      obtain rfl : (source, attr) = p := Option.some.inj hpair
      exact ⟨attr, hx⟩
  · rintro ⟨attr, hattr⟩
    refine ⟨(source, attr), ?_, rfl⟩
    rw [(members_perm statements sort).mem_iff]
    exact List.mem_filterMap.2 ⟨_, hattr, rfl⟩

/-- The module that a statement imports a name out of. -/
def sourceOf (s : Statement) : Option String := s.member?.map Prod.fst

/-- The position of the first statement that imports a name out of a module. -/
def firstUse (statements : List Statement) (source : String) : ℕ :=
  statements.findIdx (sourceOf · == some source)

/-- Groups that are not sorted come in the order in which their modules are first used. -/
lemma pairwise_firstUse_groups (statements : List Statement) :
    ((groups statements false).map Prod.fst).Pairwise fun a b =>
      firstUse statements a < firstUse statements b := by
  have hsources : (members statements false).map Prod.fst = statements.filterMap sourceOf :=
    List.map_filterMap
  rw [map_fst_groups, hsources]
  exact pairwise_findIdx_eraseDups sourceOf statements

/-- The groups of a sorted index are sorted by their modules. -/
lemma pairwise_lt_groups (statements : List Statement) :
    ((groups statements true).map Prod.fst).Pairwise (· < ·) := by
  have hle : ((members statements true).map Prod.fst).Pairwise (· ≤ ·) := by
    rw [List.pairwise_map]
    exact (pairwise_members statements).imp fun h => (Prod.Lex.toLex_le_toLex.1 h).elim
      le_of_lt fun h => h.1.le
  rw [map_fst_groups]
  exact pairwise_lt_eraseDups hle

/-- The names in a group of a sorted index are sorted. -/
lemma pairwise_attributes (statements : List Statement) (source : String) :
    (attributes statements true source).Pairwise (· ≤ ·) := by
  rw [attributes, List.pairwise_map]
  refine ((pairwise_members statements).filter (·.1 == source)).imp_of_mem ?_
  intro p q hp hq hpq
  have hsame : p.1 = q.1 := by
    rw [beq_iff_eq.1 (List.mem_filter.1 hp).2, beq_iff_eq.1 (List.mem_filter.1 hq).2]
  rcases Prod.Lex.toLex_le_toLex.1 hpq with hlt | ⟨-, hle⟩
  · exact absurd hsame (ne_of_lt hlt)
  · exact hle

/-! ## Code points -/

/-- The code points of a name. -/
def codePoints (name : String) : List ℕ := name.toList.map Char.toNat

/-- The code points of texts are in the same strict order as the texts. -/
lemma codePoints_lt {a b : String} (h : a < b) : codePoints a < codePoints b :=
  List.map_lt (fun _ _ hxy => hxy) (String.lt_iff.1 h)

/-- The code points of texts are in the same order as the texts. -/
lemma codePoints_le {a b : String} (h : a ≤ b) : codePoints a ≤ codePoints b := by
  rcases h.lt_or_eq with hlt | rfl
  · exact (codePoints_lt hlt).le
  · exact le_rfl

/-! ## Lines -/

namespace Sections

/-- The lines of an index before its listing. -/
def linesBefore (i : Sections) : List String :=
  i.imports.map importLine ++ [""] ++ i.groups.flatMap groupLines ++ [""]

/-- The line that opens the listing stands nowhere before it. -/
lemma ne_of_mem_linesBefore {i : Sections} {line : String} (h : line ∈ i.linesBefore) :
    line ≠ "__all__ = [" := by
  rintro rfl
  simp only [linesBefore, groupLines, importLine, List.mem_append, List.mem_map, List.mem_flatMap,
    List.mem_cons, ← String.toList_inj] at h
  simp at h

/-- The text of an index consists of the lines before its listing and those of the listing. -/
lemma lines_text_split {i : Sections} (h : ∀ name ∈ i.names, '\n' ∉ name.toList) :
    (Text.lines i.text).takeWhile (· ≠ "__all__ = [") = i.linesBefore ∧
      (Text.lines i.text).dropWhile (· ≠ "__all__ = [") =
        ["__all__ = ["] ++ i.listing.map listingLine ++ ["]", ""] := by
  have hlines : Text.lines i.text =
      i.linesBefore ++ (["__all__ = ["] ++ i.listing.map listingLine ++ ["]", ""]) := by
    rw [lines_text h, lines, linesBefore]
    simp
  have hbefore : ∀ line ∈ i.linesBefore, decide (line ≠ "__all__ = [") = true := by
    intro line hline
    exact decide_eq_true (ne_of_mem_linesBefore hline)
  rw [hlines, List.takeWhile_append_of_pos hbefore, List.dropWhile_append_of_pos hbefore]
  simp

end Sections

/-- What is read off the text of an index are the sections of its statements. -/
lemma ofText_render (h : ∀ x ∈ statements, ∀ name ∈ x.names, '\n' ∉ name.toList) :
    Sections.ofText (render statements sort) = sections statements sort := by
  rw [render_eq_text]
  exact Sections.ofText_text (not_mem_of_mem_names_sections h)

/-- The lines before the listing of an index say what it imports, and nothing is lost or added
there.  Each module has a line for each statement that imports it.  Each module that names are
imported out of has one group, which is not empty and has a line for each statement that imports a
name out of it.  In a sorted index the imports, the groups and the names in each group are in the
order of code points.  In every other index the imports and the names in each group have the order
of the statements, and the groups come in the order in which their modules are first used. -/
theorem render_orders_sections (h : ∀ x ∈ statements, ∀ name ∈ x.names, '\n' ∉ name.toList)
    (sort : Bool) :
    let index := Sections.ofText (render statements sort)
    (Text.lines (render statements sort)).takeWhile (· ≠ "__all__ = [") =
        index.imports.map importLine ++ [""] ++ index.groups.flatMap groupLines ++ [""] ∧
      (∀ name, index.imports.count name = statements.count (.module name)) ∧
      (index.groups.map Prod.fst).Nodup ∧
      (∀ source, source ∈ index.groups.map Prod.fst ↔ ∃ attr, .member source attr ∈ statements) ∧
      (∀ group ∈ index.groups, group.2 ≠ [] ∧
        ∀ attr, group.2.count attr = statements.count (.member group.1 attr)) ∧
      (sort = true →
        (index.imports.map codePoints).Pairwise (· ≤ ·) ∧
        (index.groups.map fun group => codePoints group.1).Pairwise (· < ·) ∧
        ∀ group ∈ index.groups, (group.2.map codePoints).Pairwise (· ≤ ·)) ∧
      (sort = false →
        index.imports = statements.filterMap Statement.module? ∧
        (index.groups.map Prod.fst).Pairwise
          (fun a b => firstUse statements a < firstUse statements b) ∧
        ∀ group ∈ index.groups, group.2 = statements.filterMap (attributeOf? group.1)) := by
  have hnames : ∀ name ∈ (sections statements sort).names, '\n' ∉ name.toList :=
    not_mem_of_mem_names_sections h
  intro index
  have hindex : index = sections statements sort := ofText_render h
  rw [hindex]
  refine ⟨(Sections.lines_text_split hnames).1, count_imports statements sort, ?_,
    fun source => mem_map_fst_groups, ?_, ?_, ?_⟩
  · exact (map_fst_groups statements sort) ▸ Disk.nodup_eraseDups _
  · intro group hgroup
    refine ⟨(mem_groups hgroup).1, fun attr => ?_⟩
    rw [snd_of_mem_groups hgroup]
    exact count_attributes statements sort group.1 attr
  · rintro rfl
    refine ⟨?_, ?_, ?_⟩
    · exact (pairwise_imports statements).map codePoints fun _ _ => codePoints_le
    · have hlt := (pairwise_lt_groups statements).map codePoints fun _ _ => codePoints_lt
      rwa [List.map_map] at hlt
    · intro group hgroup
      rw [snd_of_mem_groups hgroup]
      exact (pairwise_attributes statements group.1).map codePoints fun _ _ => codePoints_le
  · rintro rfl
    refine ⟨rfl, pairwise_firstUse_groups statements, ?_⟩
    intro group hgroup
    rw [snd_of_mem_groups hgroup, filterMap_attributeOf?]
    rfl

/-- Statements that go back and forth between two modules and import some names more than once.  One
name is both a module and a name out of the other module, and two names would be sorted the other
way round by the units of another encoding. -/
def interleaved : List Statement :=
  [.module "m", .member "m" "𝑥", .member "k" "m", .module "b", .member "m" "ｘ", .member "k" "Z",
    .member "m" "ｘ", .module "b"]

/-- The index that keeps the order of the statements has the group of the module that is used first
before the other one; the sorted index has it behind, and the names in it change places. -/
theorem render_orders_sections_interleaved :
    let listed := Sections.ofText (render interleaved false)
    let sorted := Sections.ofText (render interleaved true)
    (∀ x ∈ interleaved, ∀ name ∈ x.names, '\n' ∉ name.toList) ∧
      listed.groups = [("m", ["𝑥", "ｘ", "ｘ"]), ("k", ["m", "Z"])] ∧
      listed.imports = ["m", "b", "b"] ∧
      (listed.groups.map Prod.fst).Pairwise
        (fun a b => firstUse interleaved a < firstUse interleaved b) ∧
      sorted.groups = [("k", ["Z", "m"]), ("m", ["ｘ", "ｘ", "𝑥"])] ∧
      (∀ name, sorted.imports.count name = interleaved.count (.module name)) ∧
      (sorted.imports.map codePoints).Pairwise (· ≤ ·) ∧
      ∀ group ∈ sorted.groups, (group.2.map codePoints).Pairwise (· ≤ ·) := by
  intro listed sorted
  have hnames : ∀ x ∈ interleaved, ∀ name ∈ x.names, '\n' ∉ name.toList := by decide
  have hread (sort : Bool) :
      Sections.ofText (render interleaved sort) = sections interleaved sort :=
    ofText_render hnames
  obtain ⟨-, -, -, -, -, -, hlisted⟩ := render_orders_sections hnames false
  obtain ⟨himports, hgroups, -⟩ := hlisted rfl
  obtain ⟨-, hcount, -, -, -, hsorted, -⟩ := render_orders_sections hnames true
  obtain ⟨hsortedImports, -, hattributes⟩ := hsorted rfl
  refine ⟨hnames, ?_, himports, hgroups, ?_, hcount, hsortedImports, hattributes⟩
  · rw [show listed = sections interleaved false from hread false]
    decide
  · rw [show sorted = sections interleaved true from hread true]
    cbv

/-- The listing of an index names everything that the lines before it import, and nothing else:
modules and names out of modules.  It names everything once, in the order in which the names first
appear when the imports and then the lines of the groups are read from top to bottom. -/
theorem render_lists_imported (h : ∀ x ∈ statements, ∀ name ∈ x.names, '\n' ∉ name.toList)
    (sort : Bool) :
    let index := Sections.ofText (render statements sort)
    (Text.lines (render statements sort)).takeWhile (· ≠ "__all__ = [") =
        index.imports.map importLine ++ [""] ++ index.groups.flatMap groupLines ++ [""] ∧
      (Text.lines (render statements sort)).dropWhile (· ≠ "__all__ = [") =
        ["__all__ = ["] ++ index.listing.map listingLine ++ ["]", ""] ∧
      index.listing.Nodup ∧
      (∀ name, name ∈ index.listing ↔
        .module name ∈ statements ∨ ∃ source, .member source name ∈ statements) ∧
      index.listing.Pairwise fun a b => index.imported.idxOf a < index.imported.idxOf b := by
  have hnames : ∀ name ∈ (sections statements sort).names, '\n' ∉ name.toList :=
    not_mem_of_mem_names_sections h
  intro index
  have hindex : index = sections statements sort := ofText_render h
  rw [hindex]
  obtain ⟨hbefore, hlisting⟩ := Sections.lines_text_split hnames
  refine ⟨hbefore, hlisting, Disk.nodup_eraseDups _, fun name => ?_, pairwise_idxOf_eraseDups _⟩
  have hmem : name ∈ (sections statements sort).listing ↔
      name ∈ statements.map Statement.bound := mem_listing
  rw [hmem, List.mem_map]
  constructor
  · rintro ⟨x, hx, rfl⟩
    cases x with
    | module name => exact Or.inl hx
    | member source attr => exact Or.inr ⟨source, hx⟩
  · rintro (hx | ⟨source, hx⟩)
    · exact ⟨_, hx, rfl⟩
    · exact ⟨_, hx, rfl⟩

/-- In both indexes each of the repeated names is listed once, and the name that is a module and a
name out of the other module stands among the modules. -/
theorem render_lists_imported_interleaved :
    let listed := Sections.ofText (render interleaved false)
    let sorted := Sections.ofText (render interleaved true)
    (∀ x ∈ interleaved, ∀ name ∈ x.names, '\n' ∉ name.toList) ∧
      listed.listing = ["m", "b", "𝑥", "ｘ", "Z"] ∧
      sorted.listing = ["b", "m", "Z", "ｘ", "𝑥"] ∧
      listed.listing.Pairwise
        (fun a b => listed.imported.idxOf a < listed.imported.idxOf b) ∧
      sorted.listing.Pairwise
        (fun a b => sorted.imported.idxOf a < sorted.imported.idxOf b) ∧
      ∀ name, name ∈ sorted.listing ↔ name ∈ listed.listing := by
  intro listed sorted
  have hnames : ∀ x ∈ interleaved, ∀ name ∈ x.names, '\n' ∉ name.toList := by decide
  have hread (sort : Bool) :
      Sections.ofText (render interleaved sort) = sections interleaved sort :=
    ofText_render hnames
  obtain ⟨-, -, -, hlisted, hlistedOrder⟩ := render_lists_imported hnames false
  obtain ⟨-, -, -, hsorted, hsortedOrder⟩ := render_lists_imported hnames true
  refine ⟨hnames, ?_, ?_, hlistedOrder, hsortedOrder, fun name => ?_⟩
  · rw [show listed = sections interleaved false from hread false]
    decide
  · rw [show sorted = sections interleaved true from hread true]
    cbv
  · exact (hsorted name).trans (hlisted name).symm

end PackageIndex.Index
