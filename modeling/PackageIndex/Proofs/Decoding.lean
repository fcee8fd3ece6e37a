import PackageIndex.Proofs.SortFlag
import PackageIndex.Proofs.Tokens

/-!
# What the text of an index tells

The sections of an index can be read off its text, whatever its names are, as long as none of them
holds a line feed.  The section that a line belongs to decides how it is read, so that a name may
look like another part of an index: the empty lines between the sections and the first characters of
the lines in them tell where a section or a group ends.

`Sections.ofText` reads a text in this way, and `Sections.ofText_text` says that it finds the
sections from which the text was made.  So two lists of statements have the same text exactly if
they have the same sections.  If the index is sorted, then they are permutations of each other
(`sections_eq_iff_perm`); if not, then they agree in what they import section by section and group
by group (`sections_eq_iff`).
-/

namespace PackageIndex.Index

/-! ## Reading lines -/

/-- What stands between the front and the back of a line that begins and ends with these. -/
def between? (front back line : String) : Option String :=
  let cs := line.toList
  let inner := (cs.drop front.length).take (cs.length - front.length - back.length)
  if cs = front.toList ++ inner ++ back.toList then some (String.ofList inner) else none

/-- The module that a line imports. -/
def importOf? (line : String) : Option String := between? "from . import " "" line

/-- The module whose group a line opens. -/
def sourceOf? (line : String) : Option String := between? "from ." " import (" line

/-- The name that a line of a group imports. -/
def attributeIn? (line : String) : Option String := between? "    " "," line

/-- The name that a line of the listing gives. -/
def listedIn? (line : String) : Option String := between? "    \"" "\"," line

/-- The names in the lines of one kind that come first, and the lines from the first one of another
kind on. -/
def leading (name? : String → Option String) : List String → List String × List String
  | [] => ([], [])
  | line :: lines =>
    match name? line with
    | some name => ((leading name? lines).map (name :: ·) id)
    | none => ([], line :: lines)

/-- The groups in some lines. -/
def groupsIn : List String → List (String × List String)
  | [] => []
  | line :: lines =>
    match sourceOf? line with
    | some source => (source, (leading attributeIn? lines).1) :: groupsIn lines
    | none => groupsIn lines

/-- The sections of the index that has a given text. -/
def Sections.ofText (text : String) : Sections :=
  let (imports, rest) := leading importOf? (Text.lines text)
  let body := rest.drop 1
  { imports
    groups := groupsIn (body.takeWhile (· ≠ ""))
    listing := (leading listedIn? ((body.dropWhile (· ≠ "")).drop 2)).1 }

variable {front back line name : String} {lines : List String}

/-- What stands between two texts is found if the line has them at its ends. -/
lemma between?_eq_some_iff :
    between? front back line = some name ↔ line = front ++ name ++ back := by
  have hinner : ((front ++ name ++ back).toList.drop front.length).take
      ((front ++ name ++ back).toList.length - front.length - back.length) = name.toList := by
    have hlength : (front ++ name ++ back).toList.length - front.length - back.length =
        name.toList.length := by
      simp only [String.toList_append, List.length_append, String.length_toList]
      omega
    rw [hlength, String.toList_append, String.toList_append, List.append_assoc,
      ← String.length_toList, List.drop_left, List.take_left]
  unfold between?
  dsimp only
  constructor
  · intro h
    split_ifs at h with hline
    rw [Option.some.injEq] at h
    rw [← String.toList_inj, hline, ← h]
    simp
  · rintro rfl
    rw [hinner, if_pos (by simp), String.ofList_toList]

/-- A line that begins with another character is of another kind. -/
lemma between?_eq_none (hfront : front ≠ "") (h : line.toList.head? ≠ front.toList.head?) :
    between? front back line = none := by
  rw [Option.eq_none_iff_forall_ne_some]
  rintro name hname
  rw [between?_eq_some_iff] at hname
  apply h
  rw [hname, String.toList_append, String.toList_append, List.append_assoc]
  exact List.head?_append_of_ne_nil _ (by simpa using hfront)

/-- The names of lines of one kind are read up to the first line of another kind. -/
lemma leading_map_append {name? : String → Option String} {lineOf : String → String}
    (h : ∀ name, name? (lineOf name) = some name) {stop : String} (hstop : name? stop = none)
    (names rest : List String) :
    leading name? (names.map lineOf ++ stop :: rest) = (names, stop :: rest) := by
  induction names with
  | nil => simp [leading, hstop]
  | cons name names ih =>
    rw [List.map_cons, List.cons_append, leading, h, ih]
    rfl

/-- Lines that begin no group are passed over. -/
lemma groupsIn_append {lines : List String} (h : ∀ line ∈ lines, sourceOf? line = none)
    (rest : List String) : groupsIn (lines ++ rest) = groupsIn rest := by
  induction lines with
  | nil => rfl
  | cons line lines ih =>
    rw [List.cons_append, groupsIn, h line (by simp)]
    exact ih fun other hother => h other (by simp [hother])

/-! ## Reading sections -/

/-- The line that imports a module shows its name. -/
lemma importOf?_importLine (name : String) : importOf? (importLine name) = some name :=
  between?_eq_some_iff.2 (by simp [importLine])

/-- The line of a listed name shows it. -/
lemma listedIn?_listingLine (name : String) : listedIn? (listingLine name) = some name :=
  between?_eq_some_iff.2 (by simp [listingLine])

/-- The lines of a group inside its parentheses open no group. -/
lemma sourceOf?_attribute (attr : String) : sourceOf? ("    " ++ attr ++ ",") = none :=
  between?_eq_none (by simp) (by simp)

/-- The groups are read off their lines. -/
lemma groupsIn_groupLines (groups : List (String × List String)) :
    groupsIn (groups.flatMap groupLines) = groups := by
  induction groups with
  | nil => rfl
  | cons group groups ih =>
    have hsource : sourceOf? ("from ." ++ group.1 ++ " import (") = some group.1 :=
      between?_eq_some_iff.2 rfl
    have hattributes : leading attributeIn? (group.2.map (fun attr => "    " ++ attr ++ ",") ++
        ")" :: groups.flatMap groupLines) = (group.2, ")" :: groups.flatMap groupLines) :=
      leading_map_append (fun attr => between?_eq_some_iff.2 rfl)
        (between?_eq_none (by simp) (by simp)) _ _
    have hinside : ∀ line ∈ group.2.map (fun attr => "    " ++ attr ++ ",") ++ [")"],
        sourceOf? line = none := by
      intro line hline
      rcases List.mem_append.1 hline with hline | hline
      · obtain ⟨attr, -, rfl⟩ := List.mem_map.1 hline
        exact sourceOf?_attribute attr
      · obtain rfl : line = ")" := List.mem_singleton.1 hline
        exact between?_eq_none (by simp) (by simp)
    have hrest := groupsIn_append hinside (groups.flatMap groupLines)
    rw [List.append_assoc, List.singleton_append] at hrest
    rw [List.flatMap_cons, groupLines, List.append_assoc, List.cons_append, List.singleton_append,
      groupsIn, hsource]
    dsimp only
    rw [hattributes, hrest, ih]

/-- No line of a group is empty. -/
lemma ne_of_mem_groupLines {group : String × List String} {line : String}
    (h : line ∈ groupLines group) : line ≠ "" := by
  rintro rfl
  simp [groupLines, ← String.toList_inj] at h

/-- The lines of a group hold no line feed if its names hold none. -/
lemma not_mem_of_mem_groupLines {group : String × List String} {line : String}
    (h : ∀ name ∈ group.1 :: group.2, '\n' ∉ name.toList) (hline : line ∈ groupLines group) :
    '\n' ∉ line.toList := by
  rw [List.forall_mem_cons] at h
  simp only [groupLines, List.mem_append, List.mem_cons, List.mem_map, List.not_mem_nil,
    or_false] at hline
  rcases hline with (rfl | ⟨attr, hattr, rfl⟩) | rfl
  · simp [h.1]
  · simp [h.2 attr hattr]
  · simp

namespace Sections

/-- The names in the sections of an index. -/
def names (i : Sections) : List String :=
  i.imports ++ i.groups.flatMap (fun group => group.1 :: group.2) ++ i.listing

/-- The lines of an index are those of its text, up to its end. -/
lemma lines_text {i : Sections} (h : ∀ name ∈ i.names, '\n' ∉ name.toList) :
    Text.lines i.text = i.lines ++ [""] := by
  have hlines : ∀ line ∈ i.lines, Text.lines line = [line] := by
    intro line hline
    have hfeed : '\n' ∉ line.toList := by
      rw [names, List.forall_mem_append, List.forall_mem_append] at h
      obtain ⟨⟨himports, hgroups⟩, hlisting⟩ := h
      simp only [lines, List.mem_append, List.mem_map, List.mem_flatMap,
        List.mem_singleton] at hline
      rcases hline with (((((⟨name, hname, rfl⟩ | rfl) | ⟨group, hgroup, hline⟩) | rfl) | rfl) |
        ⟨name, hname, rfl⟩) | rfl
      · simp [importLine, himports name hname]
      · simp
      · exact not_mem_of_mem_groupLines
          (fun name hname => hgroups name (List.mem_flatMap.2 ⟨group, hgroup, hname⟩)) hline
      · simp
      · simp
      · simp [listingLine, hlisting name hname]
      · simp
    rw [Text.lines, List.splitOn_eq_singleton hfeed, List.map_singleton, String.ofList_toList]
  rw [text, lines_unlines, List.flatMap_congr hlines]
  simp

/-- The sections of an index can be read off its text. -/
theorem ofText_text {i : Sections} (h : ∀ name ∈ i.names, '\n' ∉ name.toList) :
    ofText i.text = i := by
  obtain ⟨listed, hlisted⟩ : ∃ listed, i.listing.map listingLine ++ "]" :: [""] = listed := ⟨_, rfl⟩
  obtain ⟨body, hbody⟩ : ∃ body,
      i.groups.flatMap groupLines ++ "" :: "__all__ = [" :: listed = body := ⟨_, rfl⟩
  have hlines : Text.lines i.text = i.imports.map importLine ++ "" :: body := by
    rw [lines_text h, ← hbody, ← hlisted]
    simp [lines]
  have himports : leading importOf? (Text.lines i.text) = (i.imports, "" :: body) := by
    rw [hlines]
    exact leading_map_append importOf?_importLine (between?_eq_none (by simp) (by simp)) _ _
  have hgroups : body.takeWhile (· ≠ "") = i.groups.flatMap groupLines ∧
      body.dropWhile (· ≠ "") = "" :: "__all__ = [" :: listed := by
    have hne : ∀ line ∈ i.groups.flatMap groupLines, decide (line ≠ "") = true := by
      intro line hline
      obtain ⟨group, -, hline⟩ := List.mem_flatMap.1 hline
      exact decide_eq_true (ne_of_mem_groupLines hline)
    rw [← hbody, List.takeWhile_append_of_pos hne, List.dropWhile_append_of_pos hne]
    simp
  have hlisting : leading listedIn? listed = (i.listing, "]" :: [""]) := by
    rw [← hlisted]
    exact leading_map_append listedIn?_listingLine (between?_eq_none (by simp) (by simp)) _ _
  rw [ofText, himports]
  simp only [List.drop_succ_cons, List.drop_zero, hgroups, hlisting, groupsIn_groupLines]

end Sections

/-! ## Statements with the same sections -/

/-- The modules that statements import names out of, in the order in which they first occur. -/
def sources (statements : List Statement) : List String :=
  ((statements.filterMap Statement.member?).map Prod.fst).eraseDups

variable {statements others : List Statement} {sort : Bool}

/-- The listing of an index follows from what it imports. -/
lemma sections_inj : sections statements sort = sections others sort ↔
    imports statements sort = imports others sort ∧
      groups statements sort = groups others sort := by
  constructor
  · exact fun h => ⟨congrArg Sections.imports h, congrArg Sections.groups h⟩
  · rintro ⟨himports, hgroups⟩
    rw [sections, sections, listing, listing, himports, hgroups]

/-- The groups of an index that keeps the order of its statements. -/
lemma groups_false (statements : List Statement) : groups statements false =
    (sources statements).map fun source =>
      (source, statements.filterMap (attributeOf? source)) := by
  simp only [filterMap_attributeOf?]
  rfl

/-- If the order of statements is kept, their sections tell the modules in order, the order of the
groups and the order of the names in each of them. -/
theorem sections_eq_iff : sections statements false = sections others false ↔
    statements.filterMap Statement.module? = others.filterMap Statement.module? ∧
      sources statements = sources others ∧
      ∀ source ∈ sources statements, statements.filterMap (attributeOf? source) =
        others.filterMap (attributeOf? source) := by
  have hgroups : groups statements false = groups others false ↔
      sources statements = sources others ∧
        ∀ source ∈ sources statements, statements.filterMap (attributeOf? source) =
          others.filterMap (attributeOf? source) := by
    rw [groups_false, groups_false]
    constructor
    · intro h
      have hsources : sources statements = sources others := by
        simpa [Function.comp_def] using congrArg (List.map Prod.fst) h
      rw [← hsources, List.map_inj_left] at h
      exact ⟨hsources, fun source hsource => (Prod.mk.inj (h source hsource)).2⟩
    · rintro ⟨hsources, hattributes⟩
      rw [← hsources]
      exact List.map_congr_left fun source hsource => by rw [hattributes source hsource]
  rw [sections_inj, hgroups]
  rfl

/-- If statements are sorted, their sections tell them, but for their order. -/
theorem sections_eq_iff_perm : sections statements true = sections others true ↔
    statements.Perm others := by
  constructor
  · intro h
    rw [sections_inj] at h
    obtain ⟨himports, hgroups⟩ := h
    have hmodules : (statements.filterMap Statement.module?).Perm
        (others.filterMap Statement.module?) := by
      refine (imports_perm statements true).symm.trans ?_
      rw [himports]
      exact imports_perm others true
    have hmembers : (statements.filterMap Statement.member?).Perm
        (others.filterMap Statement.member?) := by
      refine (members_perm statements true).symm.trans ((pairs_groupPairs_perm _).symm.trans ?_)
      rw [← groups, hgroups]
      exact (pairs_groupPairs_perm _).trans (members_perm others true)
    exact (perm_parts statements).trans
      (((hmodules.map _).append (hmembers.map _)).trans (perm_parts others).symm)
  · intro h
    rw [sections_inj, groups, groups, imports_eq_of_perm h, members_eq_of_perm h]
    exact ⟨rfl, rfl⟩

/-! ## Texts of statements -/

/-- The names of the sections are those of the statements. -/
lemma not_mem_of_mem_names_sections
    (h : ∀ x ∈ statements, ∀ name ∈ x.names, '\n' ∉ name.toList) :
    ∀ name ∈ (sections statements sort).names, '\n' ∉ name.toList := by
  rw [Sections.names, List.forall_mem_append, List.forall_mem_append]
  refine ⟨⟨forall_mem_imports h, ?_⟩, forall_mem_listing h⟩
  intro name hname
  obtain ⟨group, hgroup, hname⟩ := List.mem_flatMap.1 hname
  obtain ⟨hsource, hattributes⟩ := forall_mem_groups h group hgroup
  rcases List.mem_cons.1 hname with rfl | hname
  · exact hsource
  · exact hattributes name hname

/-- Statements without line feeds in their names have the same text exactly if they have the same
sections, since these are read off the text. -/
theorem render_eq_iff_sections_eq
    (hs : ∀ x ∈ statements, ∀ name ∈ x.names, '\n' ∉ name.toList)
    (ho : ∀ x ∈ others, ∀ name ∈ x.names, '\n' ∉ name.toList) :
    render statements sort = render others sort ↔
      sections statements sort = sections others sort := by
  rw [render_eq_text, render_eq_text]
  refine ⟨fun h => ?_, congrArg Sections.text⟩
  rw [← Sections.ofText_text (not_mem_of_mem_names_sections hs), h,
    Sections.ofText_text (not_mem_of_mem_names_sections ho)]

/-- The text of an index determines its content exactly: the sections can be read off it, whether or
not the index is sorted.  So two lists of statements have the same sorted text exactly if they are
permutations of each other; and they have the same text in their own order exactly if they import
the same modules in the same order, have the same groups in the same order, and import the same
names in the same order in each group. -/
theorem render_determines_content
    (hs : ∀ x ∈ statements, ∀ name ∈ x.names, '\n' ∉ name.toList)
    (ho : ∀ x ∈ others, ∀ name ∈ x.names, '\n' ∉ name.toList) :
    (∀ sort, Sections.ofText (render statements sort) = sections statements sort) ∧
      (render statements true = render others true ↔ statements.Perm others) ∧
      (render statements false = render others false ↔
        statements.filterMap Statement.module? = others.filterMap Statement.module? ∧
          sources statements = sources others ∧
          ∀ source ∈ sources statements, statements.filterMap (attributeOf? source) =
            others.filterMap (attributeOf? source)) := by
  refine ⟨fun sort => ?_, ?_, ?_⟩
  · rw [render_eq_text]
    exact Sections.ofText_text (not_mem_of_mem_names_sections hs)
  · rw [render_eq_iff_sections_eq hs ho, sections_eq_iff_perm]
  · rw [render_eq_iff_sections_eq hs ho, sections_eq_iff]

/-- Statements with names that look like other parts of an index. -/
def lookalikes : List Statement :=
  [.module "import (", .member "" ")", .module "", .member "m" "    \"x\",",
    .member "" "from . import y"]

/-- The names that look like other parts of an index are read off its text as well.  In the reverse
order the statements have the same text if they are sorted, and another one if not. -/
theorem render_determines_content_lookalikes :
    (∀ x ∈ lookalikes, ∀ name ∈ x.names, '\n' ∉ name.toList) ∧
      Sections.ofText (render lookalikes false) =
        { imports := ["import (", ""]
          groups := [("", [")", "from . import y"]), ("m", ["    \"x\","])]
          listing := ["import (", "", ")", "from . import y", "    \"x\","] } ∧
      render lookalikes true = render lookalikes.reverse true ∧
      render lookalikes false ≠ render lookalikes.reverse false := by
  have hnames : ∀ x ∈ lookalikes, ∀ name ∈ x.names, '\n' ∉ name.toList := by decide
  have hreverse : ∀ x ∈ lookalikes.reverse, ∀ name ∈ x.names, '\n' ∉ name.toList :=
    fun x hx => hnames x (List.mem_reverse.1 hx)
  obtain ⟨hread, hsorted, hlisted⟩ := render_determines_content hnames hreverse
  refine ⟨hnames, (hread false).trans (by decide), ?_, fun h => ?_⟩
  · exact hsorted.2 (List.reverse_perm lookalikes).symm
  · exact absurd (hlisted.1 h).1 (by decide)

end PackageIndex.Index
