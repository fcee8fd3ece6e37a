import PackageIndex.Proofs.Confinement
import PackageIndex.Proofs.Trees

/-!
# Indexes are sources

An index is a source file like any other, so that the grammar should take it.  It does if every name
in it is an identifier and no keyword (`Index.ofBytes?_render`).  The names of attributes come out
of sources; those of modules are names of files and directories, and nothing keeps these from
holding a hyphen or a blank.

`generate_valid` says of every index that a run has written, wherever links lead and whether the run
returns or fails, that it can be parsed if its names are proper, and that they are if all names on
the disk are that a run can meet.  A pipe that stands where an index belongs is parsed as an empty
source.  `generate_invalid_hyphenDisk` is a run that returns and has written an index that cannot be
parsed.
-/

namespace PackageIndex

/-! ## Bytes of a source -/

namespace Text

/-- A text is read back from its bytes. -/
lemma decode_toUTF8 (s : String) : decode s.toUTF8 = .ok s := by
  have h : String.fromUTF8? s.toUTF8 = some s := dif_pos s.isValidUTF8
  rw [decode, h]

/-- Lines that all end with a line feed are left as they are. -/
lemma unifyNewlines_eq {cs : List Char} (h : '\r' ∉ cs) : unifyNewlines cs = cs := by
  fun_induction unifyNewlines cs <;> simp_all

end Text

/-- The tree that bytes hold, if they are the text of a source. -/
def Source.Tree.ofBytes? (version : Version) (bytes : ByteArray) : Option Source.Tree :=
  match Text.decode bytes with
  | .error _ => none
  | .ok text =>
    if maxMinor < version.minor then none
    else Source.Tree.ofChars? version.minor (Text.unifyNewlines text.toList)

/-- A source is parsed if it can be read and its bytes hold a tree. -/
lemma Disk.parse_eq_ok_iff {d : Disk} {p : Path} {version : Version} {tree : Source.Tree} :
    d.parse p version = .ok tree ↔
      ∃ bytes, d.read p = .ok bytes ∧ Source.Tree.ofBytes? version bytes = some tree := by
  unfold parse readText Source.Tree.ofBytes?
  cases d.read p with
  | error fault => simp
  | ok bytes =>
    cases htext : Text.decode bytes with
    | error fault => simp [htext]
    | ok text =>
      simp only [String.toList_ofList, Except.ok.injEq, exists_eq_left', htext]
      split_ifs with h
      · simp
      · cases Source.Tree.ofChars? version.minor (Text.unifyNewlines text.toList) <;> simp

namespace Source.Tree

variable {version : Version}

/-- The grammar takes the version of whatever is parsed. -/
lemma minor_le_of_ofBytes? {bytes : ByteArray} {tree : Source.Tree}
    (h : ofBytes? version bytes = some tree) : version.minor ≤ maxMinor := by
  unfold ofBytes? at h
  split at h
  · simp at h
  · split_ifs at h with hminor
    exact not_lt.1 hminor

/-- A source without any bytes is a module without any statements. -/
lemma ofBytes?_empty (h : version.minor ≤ maxMinor) :
    ofBytes? version ByteArray.empty = some (.module []) := by
  have hparse := (Statement.context version.minor 16 (maxIndents + 1)).takes_statements
    fun line (hline : line ∈ ([] : List (List Token × Stmt))) => absurd hline List.not_mem_nil
  have hdecode : Text.decode ByteArray.empty = .ok "" := Text.decode_toUTF8 ""
  have htokens : tokens [] = some [] := by decide
  simp only [List.flatMap_nil, List.map_nil, Parser.Takes] at hparse
  rw [ofBytes?, hdecode]
  simp [not_lt.2 h, Text.unifyNewlines, ofChars?, htokens, Parser.parseAll, hparse]
  rfl

/-- A source without any bytes exposes nothing. -/
lemma exposedNames_of_ofBytes?_empty {tree : Source.Tree}
    (h : ofBytes? version ByteArray.empty = some tree) (respectListing : Bool) :
    tree.exposedNames respectListing = [] := by
  rw [ofBytes?_empty (minor_le_of_ofBytes? h)] at h
  obtain rfl := Option.some.inj h
  simp [exposedNames, exposedNamesOf]

end Source.Tree

namespace Index

open Source

variable {statements : List Statement} {sort : Bool} {version : Version}

/-- The bytes of an index with proper names hold its tree. -/
theorem ofBytes?_render (hminor : version.minor ≤ maxMinor)
    (h : ∀ x ∈ statements, ∀ name ∈ x.names, isProperName name = true) :
    Tree.ofBytes? version (render statements sort).toUTF8 = some (tree statements sort) := by
  have hreturn : '\r' ∉ (render statements sort).toList := fun hc =>
    absurd (isIndexChar_of_mem_render
      (fun x hx name hname => (isProperName_iff.1 (h x hx name hname)).1) _ hc) (by decide)
  rw [Tree.ofBytes?, Text.decode_toUTF8]
  simp only [not_lt.2 hminor, if_false, Text.unifyNewlines_eq hreturn]
  exact ofChars?_render version.minor h

/-- An index binds nothing but its listing, whatever it imports. -/
lemma eq_listingName_of_mem_exposedNames_tree {respectListing : Bool} {name : String}
    (h : name ∈ (tree statements sort).exposedNames respectListing) : name = listingName := by
  have hcandidates : ((statementLines statements sort).map Prod.snd).flatMap Stmt.candidates =
      [listingName] := by
    have hnone (names : List String) : names.flatMap (fun _ => ([] : List String)) = [] :=
      List.flatMap_eq_nil_iff.2 fun _ _ => rfl
    have hnone' (names : List (String × List String)) :
        names.flatMap (fun _ => ([] : List String)) = [] := List.flatMap_eq_nil_iff.2 fun _ _ => rfl
    simp [statementLines, List.flatMap_map, Stmt.candidates, Expr.boundNames, hnone, hnone']
  rw [tree, Tree.exposedNames, exposedNamesOf, hcandidates] at h
  exact List.mem_singleton.1 (List.mem_of_mem_filter h)

end Index

open Source

/-- The names in what a child adds are its own and those that it passes on. -/
lemma forall_mem_names_statementsOfChild {good : String → Prop} {stem : String}
    {statements : List Statement} (hstem : good stem)
    (h : ∀ x ∈ statements, ∀ name ∈ x.names, good name) :
    ∀ x ∈ statementsOfChild stem statements, ∀ name ∈ x.names, good name := by
  have hbound : ∀ x ∈ statements, good x.bound := fun x hx =>
    h x hx _ (by cases x <;> simp [Statement.names, Statement.bound])
  simpa [statementsOfChild, Statement.names, hstem] using hbound

namespace Disk

variable {d c : Disk} {config : Config}

/-! ## Indexes on a disk -/

/-- The index of some statements with a property was written to a path: there is a file with its
text, or a pipe, which keeps no text. -/
def HoldsIndex (d : Disk) (sort : Bool) (Q : List Statement → Prop) (p : Path) : Prop :=
  ∃ statements place, Q statements ∧ (d.resolve p = .found place .pipe ∨
    d.resolve p = .found place (.file (Index.render statements sort).toUTF8))

/-- A path that led to where a file could be read or written leads to the file that stands there
now. -/
lemma EqOffFiles.resolve_eq_file (h : d.EqOffFiles c) {p : Path} {place : Location}
    {content : ByteArray} (ht : (d.resolve p).target? = some place)
    (hd : d.resolve p ≠ .found place .directory) (hc : c.node? place = some (.file content)) :
    c.resolve p = .found place (.file content) := by
  have htarget : (c.resolve p).target? = some place := h.follow_target? ht
  have hagrees : c.AgreesWith (c.resolve p) := c.agreesWith_follow _ _ _
  cases hr : c.resolve p with
  | found other node =>
    rw [hr] at htarget hagrees
    obtain rfl : other = place := Option.some.inj htarget
    rcases hagrees with rfl | hnode
    · exact absurd (h.symm.follow_eq (Or.inl rfl) hr) hd
    · rw [Option.some.inj (hnode.symm.trans hc)]
  | vacant other asDirectory =>
    rw [hr] at htarget hagrees
    cases asDirectory
    · obtain rfl : other = place := Option.some.inj htarget
      exact absurd (hagrees.symm.trans hc) (by simp)
    · simp [Resolution.target?] at htarget
  | fault f => simp [hr, Resolution.target?] at htarget

variable {sort : Bool} {Q : List Statement → Prop} {p q : Path} {statements : List Statement}

/-- The index that is written is there. -/
lemma holdsIndex_of_write (hq : Q statements)
    (hw : d.write p (Index.render statements sort).toUTF8 = .ok c) : c.HoldsIndex sort Q p := by
  rcases eq_or_exists_of_write_ok hw with ⟨rfl, place, hr⟩ | ⟨place, ht, hdir, hfile, rfl⟩
  · exact ⟨statements, place, hq, Or.inl hr⟩
  · refine ⟨statements, place, hq, Or.inr ?_⟩
    exact (EqOffFiles.of_set _ hfile).resolve_eq_file ht hdir
      (by rw [node?_set d hfile.ne_nil, if_pos rfl])

/-- An index that was there before another was written is still there, unless the other is now. -/
lemma HoldsIndex.of_write (h : d.HoldsIndex sort Q q) (hq : Q statements)
    (hw : d.write p (Index.render statements sort).toUTF8 = .ok c) : c.HoldsIndex sort Q q := by
  rcases eq_or_exists_of_write_ok hw with ⟨rfl, -⟩ | ⟨target, -, -, hfile, rfl⟩
  · exact h
  have heq := EqOffFiles.of_set (Index.render statements sort).toUTF8 hfile
  have hset := node?_set d hfile.ne_nil (.file (Index.render statements sort).toUTF8)
  obtain ⟨old, place, hold, hr⟩ := h
  have hnode {node : Node} (hr : d.resolve q = .found place node) (hdir : node ≠ .directory) :
      d.node? place = some node := by
    have hagrees : d.AgreesWith (d.resolve q) := d.agreesWith_follow _ _ _
    rw [hr] at hagrees
    exact hagrees.resolve_left hdir
  rcases hr with hr | hr
  · -- the file that is written stands elsewhere
    have hne : place ≠ target := by
      rintro rfl
      obtain ⟨content, hcontent⟩ := hfile .pipe (hnode hr (by simp))
      simp at hcontent
    exact ⟨old, place, hold, Or.inl (heq.follow_eq (Or.inr (by rw [hset, if_neg hne])) hr)⟩
  · have htarget : (d.resolve q).target? = some place := by
      rw [hr]
      rfl
    have hafter {text : ByteArray}
        (htext : (d.set target (.file (Index.render statements sort).toUTF8)).node? place =
          some (.file text)) := heq.resolve_eq_file htarget (by simp [hr]) htext
    by_cases hplace : place = target
    · exact ⟨statements, place, hq, Or.inr (hafter (by rw [hset, if_pos hplace]))⟩
    · exact ⟨old, place, hold,
        Or.inr (hafter (by rw [hset, if_neg hplace, hnode hr (by simp)]))⟩

/-- What is read are the bytes of the file that a path leads to; nothing else holds any. -/
lemma exists_file_of_read {p : Path} {bytes : ByteArray} (h : d.read p = .ok bytes) :
    (∃ place, d.resolve p = .found place (.file bytes) ∧ d.node? place = some (.file bytes)) ∨
      bytes = ByteArray.empty := by
  have hagrees : d.AgreesWith (d.resolve p) := d.agreesWith_follow _ _ _
  unfold read at h
  split at h
  · rename_i place content hr
    obtain rfl : content = bytes := Except.ok.inj h
    rw [hr] at hagrees
    exact Or.inl ⟨place, hr, hagrees.resolve_left (by simp)⟩
  · simp at h
  · exact Or.inr (Except.ok.inj h).symm
  · simp at h
  · simp at h

/-! ## Proper names on a disk -/

/-- Something other than a pipe stands at a place, or a link that stands where an index belongs
leads there. -/
def MayHold (d : Disk) (place : Location) : Prop :=
  (d.node? place ≠ none ∧ d.node? place ≠ some .pipe) ∨
    ∃ origin target, d.node? (origin ++ [indexName]) = some (.link target) ∧
      (d.follow maxLinks origin [indexName]).target? = some place

/-- All names on a disk are proper that a run can meet: those under which its directories and
sources are imported, unless they are excluded, and those that its sources expose. -/
structure HasProperNames (d : Disk) (config : Config) : Prop where
  modules : ∀ directory, ∀ e : Entry, d.MayHold (directory ++ [e.name]) →
    Glob.isExcluded config.exclude e.name = false → e.isEligible = true →
    (e.isDirectory = true ↔ d.node? (directory ++ [e.name]) = some .directory) →
    isProperName e.moduleName = true
  exposed : ∀ p tree, p.suffix = sourceSuffix → d.parse p config.version = .ok tree →
    ∀ name ∈ tree.exposedNames config.respectListing, isProperName name = true

/-- The index of a directory is read and written where it belongs, unless a link stands there. -/
lemma eq_or_link_of_target? {p : Path} {place other : Location}
    (hr : d.resolve p = .found place .directory)
    (ht : (d.resolve (p.child indexName)).target? = some other) :
    other = place ++ [indexName] ∨ ∃ target, d.node? (place ++ [indexName]) = some (.link target) ∧
      (d.follow maxLinks place [indexName]).target? = some other := by
  by_cases hlink : ∃ target, d.node? (place ++ [indexName]) = some (.link target)
  · obtain ⟨target, hnode⟩ := hlink
    refine Or.inr ⟨target, hnode, ?_⟩
    obtain ⟨left, hleft, hchild⟩ := exists_resolve_child hr
    rw [hchild] at ht
    rwa [follow_of_le hleft fun h => by simp [h, Resolution.target?] at ht]
  · exact Or.inl (eq_indexPlace_of_target? hr (not_exists.1 hlink) ht)

/-- A scan reports what stands below a directory, and whether it is a directory. -/
lemma isDirectory_of_entry? {p : Path} {place : Location} {name : String} {e : Entry}
    (h : d.entry? p place name = some e) :
    (d.node? (place ++ [name]) ≠ none ∧ d.node? (place ++ [name]) ≠ some .pipe) ∧
      (e.isDirectory = true ↔ d.node? (place ++ [name]) = some .directory) := by
  unfold entry? at h
  dsimp only at h
  split at h
  · rename_i hnode
    simp [hnode, ← Option.some.inj h]
  · rename_i hnode
    simp [hnode, ← Option.some.inj h]
  · rename_i hnode
    split_ifs at h
    simp [hnode, ← Option.some.inj h]
  · simp at h
  · simp at h

/-- The names that come from a place are proper, and no link stands there for an index. -/
def hasProperNamesAt (d : Disk) (config : Config) (place : Location) : Bool :=
  match d.node? place, place.getLast? with
  | some .directory, some name => isProperName name
  | some (.link _), some name => name != indexName && isProperName (Path.splitName name).1
  | some (.file content), some name =>
    isProperName (Path.splitName name).1 && (Tree.ofBytes? config.version content).all fun tree =>
      (tree.exposedNames config.respectListing).all isProperName
  | _, _ => true

section Entries

variable (h : ∀ entry ∈ d.entries, d.hasProperNamesAt config entry.1 = true)

include h

/-- The names that come from a place are proper if those from all entries are. -/
lemma hasProperNamesAt_child {directory : Location} {name : String}
    (hne : d.node? (directory ++ [name]) ≠ none) :
    d.hasProperNamesAt config (directory ++ [name]) = true := by
  obtain ⟨node, hmem⟩ := (node?_ne_none_iff (by simp)).1 hne
  exact h _ hmem

/-- Since no link stands for an index, something can only be where it was before. -/
lemma MayHold.node?_ne {place : Location} (hheld : d.MayHold place) :
    d.node? place ≠ none ∧ d.node? place ≠ some .pipe := by
  refine hheld.resolve_right ?_
  rintro ⟨origin, target, hlink, -⟩
  have horigin := hasProperNamesAt_child h (show d.node? (origin ++ [indexName]) ≠ none by
    simp [hlink])
  simp [hasProperNamesAt, hlink] at horigin

/-- The name under which a child is imported is proper if the names that come from all entries are.
-/
lemma isProperName_moduleName_of_entries {directory : Location} {e : Entry}
    (hheld : d.MayHold (directory ++ [e.name]))
    (hdirectory : e.isDirectory = true ↔ d.node? (directory ++ [e.name]) = some .directory) :
    Source.isProperName e.moduleName = true := by
  obtain ⟨hnone, hpipe⟩ := hheld.node?_ne h
  have hname := hasProperNamesAt_child h hnone
  simp only [hasProperNamesAt, List.getLast?_append, List.getLast?_singleton,
    Option.some_or] at hname
  rw [Entry.moduleName]
  cases hd : e.isDirectory with
  | true => simpa [hdirectory.1 hd] using hname
  | false =>
    obtain ⟨node, hnode⟩ := Option.ne_none_iff_exists'.1 hnone
    have hstem : Source.isProperName (Path.splitName e.name).1 = true := by
      cases node with
      | directory => simp [hdirectory.2 hnode] at hd
      | file content => simp_all
      | link target => simp_all
      | pipe => exact absurd hnode hpipe
    exact hstem

/-- The names that a source exposes are proper if those that come from all entries are. -/
lemma isProperName_exposed_of_entries {p : Path} {tree : Source.Tree}
    (hparse : d.parse p config.version = .ok tree) :
    ∀ name ∈ tree.exposedNames config.respectListing, Source.isProperName name = true := by
  obtain ⟨bytes, hread, htree⟩ := parse_eq_ok_iff.1 hparse
  rcases exists_file_of_read hread with ⟨place, -, hnode⟩ | rfl
  · have hne : place ≠ [] := by
      rintro rfl
      simp at hnode
    obtain ⟨directory, name, rfl⟩ := (List.eq_nil_or_concat' place).resolve_left hne
    have hplaced : Source.isProperName (Path.splitName name).1 = true ∧
        ∀ name ∈ tree.exposedNames config.respectListing, Source.isProperName name = true := by
      have hname := hasProperNamesAt_child h (show d.node? (directory ++ [name]) ≠ none by
        simp [hnode])
      simpa [hasProperNamesAt, hnode, htree] using hname
    exact hplaced.2
  · simp [Tree.exposedNames_of_ofBytes?_empty htree]

/-- The names on a disk are proper if those are that come from its entries, when no link stands for
an index. -/
lemma hasProperNames_of_entries : d.HasProperNames config where
  modules _ _ hheld _ _ hdirectory := isProperName_moduleName_of_entries h hheld hdirectory
  exposed _ _ _ hparse := isProperName_exposed_of_entries h hparse

end Entries

/-! ## Runs -/

/-- Statements that a run from a disk can put into an index: the grammar takes the version, and
names are proper if those on the disk are. -/
structure Admits (d : Disk) (config : Config) (statements : List Statement) : Prop where
  minor_le : config.version.minor ≤ maxMinor
  isProperName : d.HasProperNames config →
    ∀ x ∈ statements, ∀ name ∈ x.names, isProperName name = true

/-- How far a run from a disk may be: it is confined, and the indexes that it has written are
there. -/
structure Serves (d : Disk) (config : Config) (st : Progress) : Prop where
  confines : d.Confines config st
  holdsIndex : ∀ p ∈ st.written, st.disk.HoldsIndex config.sort (d.Admits config) p

/-- What the visit of a path may have led to: names are proper if those on the disk are, and the
grammar takes the version as soon as a source was parsed. -/
structure MayExpose (d : Disk) (config : Config) (p : Path) (statements : List Statement) :
    Prop where
  minor_le : (d.isDirectory p = true → statements ≠ []) → config.version.minor ≤ maxMinor
  isProperName : d.HasProperNames config →
    ∀ x ∈ statements, ∀ name ∈ x.names, isProperName name = true

namespace Serves

variable {st : Progress}

/-- A file that has changed holds the text of an index. -/
lemma exists_of_node?_ne (h : d.Serves config st) {place : Location}
    (hne : st.disk.node? place ≠ d.node? place) : ∃ statements, d.Admits config statements ∧
      st.disk.node? place = some (.file (Index.render statements config.sort).toUTF8) := by
  obtain ⟨-, ⟨content, hfile⟩, q, hq, ht⟩ := (h.confines.node?_eq place).resolve_left hne
  have hagrees : st.disk.AgreesWith (st.disk.resolve q) := st.disk.agreesWith_follow _ _ _
  have htarget : (st.disk.resolve q).target? = some place :=
    h.confines.eqOffFiles.symm.follow_target? ht
  obtain ⟨statements, other, hadmits, hpipe | hr⟩ := h.holdsIndex q hq
  · rw [hpipe] at hagrees htarget
    obtain rfl : other = place := Option.some.inj htarget
    simp [AgreesWith, hfile] at hagrees
  · rw [hr] at hagrees htarget
    obtain rfl : other = place := Option.some.inj htarget
    exact ⟨statements, hadmits, hagrees.resolve_left (by simp)⟩

/-- The names that a source exposes are proper if those on the disk before the run are, since
another source than then is an index now. -/
lemma isProperName_of_parse (h : d.Serves config st) (hd : d.HasProperNames config) {p : Path}
    {tree : Source.Tree} (hsuffix : p.suffix = sourceSuffix)
    (hparse : st.disk.parse p config.version = .ok tree) :
    ∀ name ∈ tree.exposedNames config.respectListing, Source.isProperName name = true := by
  obtain ⟨bytes, hread, htree⟩ := parse_eq_ok_iff.1 hparse
  have hminor := Tree.minor_le_of_ofBytes? htree
  rcases exists_file_of_read hread with ⟨place, hr, hfile⟩ | rfl
  · by_cases hnode : st.disk.node? place = d.node? place
    · have hbefore := h.confines.eqOffFiles.follow_eq (Or.inr hnode.symm) hr
      have hresolve : d.resolve p = st.disk.resolve p := hbefore.trans hr.symm
      exact hd.exposed p tree hsuffix ((parse_eq_of_resolve hresolve).trans hparse)
    · obtain ⟨statements, hadmits, htext⟩ := h.exists_of_node?_ne hnode
      obtain rfl : bytes = _ := Node.file.inj (Option.some.inj (hfile.symm.trans htext))
      rw [Index.ofBytes?_render hminor (hadmits.isProperName hd)] at htree
      intro name hname
      rw [← Option.some.inj htree] at hname
      rw [Index.eq_listingName_of_mem_exposedNames_tree hname]
      decide
  · simp [Tree.exposedNames_of_ofBytes?_empty htree]

/-- The name under which a child is imported is proper if those on the disk before the run are,
since only indexes are new. -/
lemma isProperName_moduleName (h : d.Serves config st) (hd : d.HasProperNames config) {p : Path}
    {place : Location} {name : String} {e : Entry}
    (hex : Glob.isExcluded config.exclude name = false)
    (he : st.disk.entry? p place name = some e) (hel : e.isEligible = true) :
    Source.isProperName e.moduleName = true := by
  obtain ⟨hnode, hdirectory⟩ := isDirectory_of_entry? he
  obtain rfl := name_of_entry? he
  have hheld : d.MayHold (place ++ [e.name]) := by
    rcases h.confines.node?_eq (place ++ [e.name]) with heq | ⟨-, -, q, hq, ht⟩
    · exact Or.inl (heq ▸ hnode)
    · obtain ⟨directory, origin, rfl, hr⟩ := h.confines.written_eq q hq
      refine Or.inr ?_
      rcases eq_or_link_of_target? hr ht with heq | ⟨target, hlink, hfollow⟩
      · -- an index is not eligible
        have hname : e.name = indexName := by simpa using (List.append_inj' heq rfl).2
        simp [Entry.isEligible, hname] at hel
      · exact ⟨origin, target, hlink, hfollow⟩
  refine hd.modules place e hheld hex hel (hdirectory.trans ?_)
  have heq := h.confines.eqOffFiles
  exact ⟨fun hst => heq.node?_eq_of_not_file hst (by simp),
    fun hbefore => heq.symm.node?_eq_of_not_file hbefore (by simp)⟩

end Serves

/-- Every event of a run keeps the indexes that were written, and what it puts into others can be
parsed if names are proper. -/
lemma invariant_serves (d : Disk) (config : Config) :
    Run.Invariant config (d.Serves config) (fun p place => d.resolve p = .found place .directory)
      (d.MayExpose config) where
  directory h hr := h.confines.resolve_eq hr
  nil hr := ⟨fun h => absurd rfl (h (isDirectory_iff.2 ⟨_, hr⟩)), by simp⟩
  append {p place statements more} hr hs hm := by
    refine ⟨fun h => ?_, fun hd x hx => ?_⟩
    · by_cases hnil : statements = []
      · exact hm.minor_le fun hdir => by simpa [hnil] using h hdir
      · exact hs.minor_le fun _ => hnil
    · exact (List.mem_append.1 hx).elim (hs.isProperName hd x) (hm.isProperName hd x)
  source {st p tree} h hsuffix hparse := by
    obtain ⟨bytes, -, htree⟩ := parse_eq_ok_iff.1 hparse
    refine ⟨fun _ => Tree.minor_le_of_ofBytes? htree, fun hd x hx name hname => ?_⟩
    obtain ⟨exposed, hmem, rfl⟩ := List.mem_map.1 hx
    obtain rfl : name = exposed := List.mem_singleton.1 hname
    exact h.isProperName_of_parse hd hsuffix hparse name hmem
  child {st p place name e statements} h hr hex he hel hv hne := by
    refine ⟨fun _ => hv.minor_le fun hdir => ?_, fun hd => ?_⟩
    · cases hkind : e.isDirectory with
      | true => exact hne hkind
      | false =>
        -- the path of a source does not lead to a directory
        have heq := h.confines.eqOffFiles
        have hname : IsName name := name_of_entry? he ▸ isName_of_isEligible hel hkind
        obtain ⟨other, content, hfile⟩ :=
          resolve_of_entry? (heq.symm.follow_eq (Or.inl rfl) hr) hname he hkind
        obtain ⟨root, hroot⟩ := isDirectory_iff.1 hdir
        have hpath := path_of_entry? he
        rw [hpath] at hroot
        have hbefore : st.disk.resolve (p.child name) = .found root .directory :=
          heq.symm.follow_eq (Or.inl rfl) hroot
        simp [hfile] at hbefore
    · exact forall_mem_names_statementsOfChild (h.isProperName_moduleName hd hex he hel)
        (hv.isProperName hd)
  tell _ h := ⟨h.confines.of_notices _, h.holdsIndex⟩
  write {st p place statements c} h hr hv hne hw := by
    have hadmits : d.Admits config statements := ⟨hv.minor_le fun _ => hne, hv.isProperName⟩
    have hwrite := write_of_writeIndex hw
    refine ⟨h.confines.of_writeIndex hr hw, fun q hq => ?_⟩
    rcases List.mem_append.1 hq with hq | hq
    · exact (h.holdsIndex q hq).of_write hadmits hwrite
    · rw [List.mem_singleton.1 hq]
      exact holdsIndex_of_write hadmits hwrite

end Disk

/-! ## Whole runs -/

/-- Every index that a run has written is there, and can be parsed if the names in it are proper,
whether the run returns or fails and wherever links lead.  If all names on the disk are proper, so
that only such names come into indexes, every index can be parsed. -/
theorem generate_valid (config : Config) (d : Disk) :
    let after := (generate config d).2
    (∀ p ∈ after.written,
      (∃ place, after.disk.resolve p = .found place .pipe) ∧
          after.disk.parse p config.version = .ok (.module []) ∨
        (∃ statements, after.disk.read p = .ok (Index.render statements config.sort).toUTF8) ∧
          ∀ statements, after.disk.read p = .ok (Index.render statements config.sort).toUTF8 →
            (∀ x ∈ statements, ∀ name ∈ x.names, isProperName name = true) →
            after.disk.parse p config.version = .ok (Index.tree statements config.sort)) ∧
    (d.HasProperNames config →
      ∀ p ∈ after.written, ∃ tree, after.disk.parse p config.version = .ok tree) := by
  intro after
  have hstart : d.Serves config (Progress.start d) :=
    ⟨Disk.Confines.start d config, fun _ hp => by simp [Progress.start] at hp⟩
  have hafter : d.Serves config after :=
    ((Disk.invariant_serves d config).ensures_visit _ _ _ hstart).1
  have hpipe {p : Path} {place : Location} (hminor : config.version.minor ≤ maxMinor)
      (hr : after.disk.resolve p = .found place .pipe) :
      after.disk.parse p config.version = .ok (.module []) :=
    Disk.parse_eq_ok_iff.2 ⟨_, by simp [Disk.read, hr], Tree.ofBytes?_empty hminor⟩
  have hindex {p : Path} {statements : List Statement} (hminor : config.version.minor ≤ maxMinor)
      (hr : after.disk.read p = .ok (Index.render statements config.sort).toUTF8)
      (hproper : ∀ x ∈ statements, ∀ name ∈ x.names, isProperName name = true) :
      after.disk.parse p config.version = .ok (Index.tree statements config.sort) :=
    Disk.parse_eq_ok_iff.2 ⟨_, hr, Index.ofBytes?_render hminor hproper⟩
  refine ⟨fun p hp => ?_, fun hd p hp => ?_⟩
  · obtain ⟨content, place, hadmits, hr | hr⟩ := hafter.holdsIndex p hp
    · exact Or.inl ⟨⟨place, hr⟩, hpipe hadmits.minor_le hr⟩
    · exact Or.inr ⟨⟨content, by simp [Disk.read, hr]⟩, fun _ => hindex hadmits.minor_le⟩
  · obtain ⟨content, place, hadmits, hr | hr⟩ := hafter.holdsIndex p hp
    · exact ⟨_, hpipe hadmits.minor_le hr⟩
    · exact ⟨_, hindex hadmits.minor_le (by simp [Disk.read, hr]) (hadmits.isProperName hd)⟩

/-- The run from the small disk returns; its names are proper, and so are those in its indexes. -/
theorem generate_valid_sampleDisk :
    let p : Path := ⟨"", ["p", "q", indexName]⟩
    let after := (generate sampleConfig sampleDisk).2
    (generate sampleConfig sampleDisk).1 =
        .ok [.module "a", .member "a" "x", .module "q", .member "q" "b", .module "l"] ∧
      sampleDisk.HasProperNames sampleConfig ∧ p ∈ after.written ∧
      after.disk.read p = .ok (Index.render [.module "b"] true).toUTF8 ∧
      after.disk.parse p sampleConfig.version = .ok (Index.tree [.module "b"] true) ∧
      ∀ q ∈ after.written, ∃ tree, after.disk.parse q sampleConfig.version = .ok tree := by
  have hproper : sampleDisk.HasProperNames sampleConfig :=
    Disk.hasProperNames_of_entries (by decide +kernel)
  have hwritten : (⟨"", ["p", "q", indexName]⟩ : Path) ∈
      (generate sampleConfig sampleDisk).2.written := by
    decide +kernel
  have hread : (generate sampleConfig sampleDisk).2.disk.read ⟨"", ["p", "q", indexName]⟩ =
      .ok (Index.render [.module "b"] true).toUTF8 := by
    decide +kernel
  obtain ⟨hindexes, hall⟩ := generate_valid sampleConfig sampleDisk
  refine ⟨by decide +kernel, hproper, hwritten, hread, ?_, hall hproper⟩
  rcases hindexes _ hwritten with ⟨⟨place, hpipe⟩, -⟩ | ⟨-, hparse⟩
  · simp only [Disk.read, hpipe, Except.ok.injEq] at hread
    exact absurd hread (by decide +kernel)
  · exact hparse [.module "b"] hread (by decide)

/-- A package with an empty source whose name has a hyphen. -/
def hyphenDisk : Disk where
  entries := [(["p"], .directory), (["p", "my-mod.py"], .file ByteArray.empty)]
  mentions := [["p"], ["p", "my-mod.py"]]

/-- The run from the package with the hyphen returns and has written an index that cannot be parsed,
since the name in it is no identifier. -/
theorem generate_invalid_hyphenDisk :
    let p : Path := ⟨"", ["p", indexName]⟩
    let after := (generate sampleConfig hyphenDisk).2
    (generate sampleConfig hyphenDisk).1 = .ok [.module "my-mod"] ∧ after.written = [p] ∧
      after.disk.read p = .ok (Index.render [.module "my-mod"] true).toUTF8 ∧
      isProperName "my-mod" = false ∧
      after.disk.parse p sampleConfig.version = .error (.notParsed p) := by
  have hread : (generate sampleConfig hyphenDisk).2.disk.read ⟨"", ["p", indexName]⟩ =
      .ok (Index.render [.module "my-mod"] true).toUTF8 := by
    decide +kernel
  have hnone : Tree.ofChars? 12
      (Text.unifyNewlines (Index.render [.module "my-mod"] true).toList) = none :=
    Option.isNone_iff_eq_none.1 (by decide +kernel)
  refine ⟨by decide +kernel, by decide +kernel, hread, by decide +kernel, ?_⟩
  have hminor : ¬ maxMinor < sampleConfig.version.minor := by decide
  rw [Disk.parse, Disk.readText, hread]
  simp only [Text.decode_toUTF8, String.toList_ofList, hminor, if_false]
  rw [show sampleConfig.version.minor = 12 from rfl, hnone]

end PackageIndex
