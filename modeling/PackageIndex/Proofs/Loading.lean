import PackageIndex.Proofs.SettingChecks
import PackageIndex.Proofs.ValidIndexes

/-!
# Loading of configurations

A configuration is loaded in two steps.  First the settings file is read.  A file without a readable
text, a text that is no document and a document without a table for this program all count as a file
with an empty table (`tableOf`); but some documents end the loading (`Withholds`).  Then the values
that count are checked.

`load_eq_ok_iff` and `load_eq_error_iff` say when loading returns which configuration and when it
fails in which way.  `load_returns_iff` says for which settings it returns, and that it fails with a
failure about a setting for all others but a few kinds, which the checks do not foresee.
`load_layers` says that nothing of a settings file is seen but the values of settings that the
caller does not give.
-/

namespace PackageIndex

/-- The failure is about the value of a setting. -/
def Failure.isAboutSetting : Failure → Bool
  | .invalidVersion _ | .versionNotText _ | .excludeNotList | .notBoolean _ _ => true
  | _ => false

namespace Settings

/-! ## The settings file -/

/-- What the text of a settings file is parsed as, or `none` if it has no text. -/
def document? (d : Disk) (p : Path) : Option (Except Toml.TextFault Toml.Table) :=
  if d.isFile p then (d.readText p).toOption.map fun text => Toml.parse text.toList else none

/-- The settings in a settings file.  There are none if the file has no text, if its text is no
document, or if they are no table. -/
def tableOf (d : Disk) (p : Path) : Toml.Table :=
  match document? d p with
  | some (.ok t) =>
    match subtable t toolsKey with
    | .table tools =>
      match subtable tools programKey with
      | .table settings => settings
      | _ => []
    | _ => []
  | _ => []

/-- The tables of tools in a settings file, if it has any, are a table themselves. -/
def HasToolTables (d : Disk) (p : Path) : Prop :=
  ∀ t, document? d p = some (.ok t) → ∃ tools, subtable t toolsKey = .table tools

/-- A settings file ends the loading with a failure: an integer in it has too many digits, or the
tables of tools are a value without names. -/
inductive Withholds (d : Disk) (p : Path) : Failure → Prop
  | digits {count : ℕ} (h : document? d p = some (.error (.tooManyDigits count))) :
    Withholds d p (.tooManyDigits count)
  | tools {t : Toml.Table} (h : document? d p = some (.ok t))
    (hn : ∀ tools, subtable t toolsKey ≠ .table tools) :
    Withholds d p (.noNames (subtable t toolsKey).kindName)

/-- The value that counts for a setting comes from the first layer that has one: what the caller
gives, the settings file, and the defaults. -/
inductive Counts (o : Overrides) (settings : Toml.Table) (s : Setting) : Value → Prop
  | given {v : Value} (h : o.value? s = some v) : Counts o settings s v
  | found {v : Value} (h : o.value? s = none) (hv : settings.lookup s.key = some v) :
    Counts o settings s v
  | default (h : o.value? s = none) (hv : settings.lookup s.key = none) :
    Counts o settings s s.default

variable {d : Disk} {p root project : Path} {o : Overrides} {settings : Toml.Table} {f : Failure}
  {config : Config}

/-- A settings file ends the loading in one way at most. -/
lemma Withholds.unique {g : Failure} (hf : Withholds d p f) (hg : Withholds d p g) : f = g := by
  cases hf <;> cases hg <;> simp_all

/-- The value that counts is the effective one. -/
lemma counts_iff {s : Setting} {v : Value} :
    Counts o settings s v ↔ effective o settings s = v := by
  constructor
  · rintro (⟨h⟩ | ⟨h, hv⟩ | ⟨h, hv⟩)
    · simp [effective, h]
    · simp [effective, h, hv]
    · simp [effective, h, hv]
  · rintro rfl
    cases h : o.value? s with
    | some v => simpa [effective, h] using Counts.given h
    | none =>
      cases hv : settings.lookup s.key with
      | some v => simpa [effective, h, hv] using Counts.found h hv
      | none => simpa [effective, h, hv] using Counts.default h hv

/-- A file that is no document has no settings and does not end the loading. -/
lemma tableOf_eq_nil (h : document? d p = none ∨ document? d p = some (.error .malformed)) :
    tableOf d p = [] ∧ ∀ f, ¬ Withholds d p f := by
  constructor
  · rcases h with h | h <;> rw [tableOf, h]
  · rintro f (⟨hdigits⟩ | ⟨htools, -⟩) <;> simp_all

/-- A document ends the loading if its tables of tools are no table.  Otherwise its settings are
those of the file. -/
lemma settingsIn_cases {t : Toml.Table} (h : document? d p = some (.ok t)) :
    (∃ f, settingsIn t = .error f ∧ Withholds d p f) ∨
      ∃ found, settingsIn t = .ok found ∧ found.getD [] = tableOf d p ∧
        ∀ f, ¬ Withholds d p f := by
  by_cases htools : ∃ tools, subtable t toolsKey = .table tools
  · obtain ⟨tools, htools⟩ := htools
    refine Or.inr ?_
    have hwithholds : ∀ f, ¬ Withholds d p f := by
      rintro f (⟨hdigits⟩ | ⟨hother, hne⟩)
      · simp [h] at hdigits
      · obtain rfl : t = _ := Except.ok.inj (Option.some.inj (h.symm.trans hother))
        exact hne tools htools
    unfold settingsIn tableOf
    simp only [h, htools]
    cases subtable tools programKey <;> exact ⟨_, rfl, rfl, hwithholds⟩
  · have hne : ∀ tools, subtable t toolsKey ≠ .table tools := fun tools ht => htools ⟨tools, ht⟩
    refine Or.inl ⟨_, ?_, .tools h hne⟩
    unfold settingsIn
    split
    · rename_i tools ht
      exact absurd ht (hne tools)
    · rfl

/-- A settings file ends the loading, or it gives its settings and at most a warning. -/
lemma ofFile_cases (d : Disk) (p : Path) :
    (∃ f, ofFile d p = .error f ∧ Withholds d p f) ∨
      ∃ notices, ofFile d p = .ok (tableOf d p, notices) ∧ (∀ f, ¬ Withholds d p f) ∧
        (notices = [] ∨ notices = [.settingsUnreadable p] ∨ notices = [.settingsNotTable p]) := by
  -- the cases are those in which a file is read, decoded, parsed and searched for the table
  by_cases hfile : d.isFile p = true
  swap
  · have hdocument : document? d p = none := by simp [document?, hfile]
    obtain ⟨htable, hwithholds⟩ := tableOf_eq_nil (.inl hdocument)
    exact Or.inr ⟨[], by simp [ofFile, hfile, htable], hwithholds, .inl rfl⟩
  cases htext : d.readText p with
  | error fault =>
    have hdocument : document? d p = none := by simp [document?, htext, Except.toOption]
    obtain ⟨htable, hwithholds⟩ := tableOf_eq_nil (.inl hdocument)
    exact Or.inr ⟨_, by simp [ofFile, readTable, hfile, htext, htable], hwithholds, .inr (.inl rfl)⟩
  | ok text =>
    have hdocument : document? d p = some (Toml.parse text.toList) := by
      simp [document?, hfile, htext, Except.toOption]
    cases hparse : Toml.parse text.toList with
    | error fault =>
      rw [hparse] at hdocument
      cases fault with
      | malformed =>
        obtain ⟨htable, hwithholds⟩ := tableOf_eq_nil (.inr hdocument)
        exact Or.inr ⟨_, by simp [ofFile, readTable, hfile, htext, hparse, htable], hwithholds,
          .inr (.inl rfl)⟩
      | tooManyDigits count =>
        exact Or.inl ⟨_, by simp [ofFile, readTable, hfile, htext, hparse], .digits hdocument⟩
    | ok t =>
      rw [hparse] at hdocument
      rcases settingsIn_cases hdocument with
        ⟨f, hf, hwithholds⟩ | ⟨found, hfound, htable, hwithholds⟩
      · exact Or.inl ⟨f, by simp [ofFile, readTable, hfile, htext, hparse, hf], hwithholds⟩
      · cases found with
        | none =>
          have hnil : tableOf d p = [] := htable.symm
          exact Or.inr ⟨_, by simp [ofFile, readTable, hfile, htext, hparse, hfound, hnil],
            hwithholds, .inr (.inr rfl)⟩
        | some settings =>
          have hsettings : tableOf d p = settings := htable.symm
          exact Or.inr ⟨_, by simp [ofFile, readTable, hfile, htext, hparse, hfound, hsettings],
            hwithholds, .inl rfl⟩

/-! ## Loading -/

/-- What loading makes of a settings file and of the values that count. -/
lemma load_cases (d : Disk) (root project : Path) (o : Overrides) :
    let file := project.child fileName
    (∃ f, Config.load d root project o = (.error f, []) ∧ Withholds d file f) ∨
      ((Config.load d root project o).1 = check root (effective o (tableOf d file)) ∧
        (∀ f, ¬ Withholds d file f) ∧
        ((Config.load d root project o).2 = [] ∨
          (Config.load d root project o).2 = [.settingsUnreadable file] ∨
          (Config.load d root project o).2 = [.settingsNotTable file])) := by
  intro file
  rcases ofFile_cases d file with ⟨f, hf, hwithholds⟩ | ⟨notices, hok, hwithholds, hnotices⟩
  · exact Or.inl ⟨f, by rw [Config.load, hf], hwithholds⟩
  · have hload : Config.load d root project o =
        (check root (effective o (tableOf d file)), notices) := by
      rw [Config.load, hok]
    exact Or.inr ⟨by rw [hload], hwithholds, by rw [hload]; exact hnotices⟩

/-- Loading returns the configuration that has the values that count, unless the settings file ends
it. -/
theorem load_eq_ok_iff : (Config.load d root project o).1 = .ok config ↔
    (∀ f, ¬ Withholds d (project.child fileName) f) ∧ config.root = root ∧
      config.Has (effective o (tableOf d (project.child fileName))) := by
  rcases load_cases d root project o with ⟨f, hf, hwithholds⟩ | ⟨hload, hwithholds, -⟩
  · rw [hf]
    exact ⟨nofun, fun h => absurd hwithholds (h.1 f)⟩
  · rw [hload, check_eq_ok_iff]
    exact ⟨fun h => ⟨hwithholds, h⟩, And.right⟩

/-- Loading fails as the settings file ends it, or else as the first check that refuses a value. -/
theorem load_eq_error_iff : (Config.load d root project o).1 = .error f ↔
    Withholds d (project.child fileName) f ∨ (∀ g, ¬ Withholds d (project.child fileName) g) ∧
      FirstRefusal (effective o (tableOf d (project.child fileName))) checks f := by
  rcases load_cases d root project o with ⟨g, hg, hwithholds⟩ | ⟨hload, hwithholds, -⟩
  · rw [hg]
    constructor
    · intro h
      exact Or.inl (Except.error.inj h ▸ hwithholds)
    · rintro (hf | ⟨hnone, -⟩)
      · exact congrArg Except.error (hwithholds.unique hf)
      · exact absurd hwithholds (hnone g)
  · rw [hload, check_eq_error_iff]
    constructor
    · exact fun h => Or.inr ⟨hwithholds, h⟩
    · rintro (hf | ⟨-, h⟩)
      · exact absurd hf (hwithholds f)
      · exact h

/-! ## Settings that make a configuration -/

/-- The failure of a check is about a setting, or it is one of a few that the checks do not
foresee: the excluded names are of a kind without items, a refused value is too long to be shown, or
a number in the version text has too many digits. -/
lemma Refuses.isAboutSetting_or {value : Setting → Value} {c : Check} (h : Refuses value c f) :
    f.isAboutSetting = true ∨
      (f = .notIterable (value .exclude).kindName ∧ (value .exclude).isIterable = false) ∨
      (f = .tooLongToShow ∧ ∃ s, (value s).shown = none) ∨
      ∃ text count, f = .tooManyDigits count ∧ value .version = .text text ∧
        Version.ofText text = .error (.tooManyDigits count) := by
  have hrefusal (s : Setting) (failure : String → Failure)
      (hfailure : ∀ shown, (failure shown).isAboutSetting = true) :
      (refusal (value s) failure).isAboutSetting = true ∨
        refusal (value s) failure = .tooLongToShow ∧ ∃ s, (value s).shown = none := by
    unfold refusal
    cases hshown : (value s).shown with
    | none => exact Or.inr ⟨rfl, s, hshown⟩
    | some shown => exact Or.inl (hfailure shown)
  cases h with
  | versionKind =>
    rcases hrefusal .version .versionNotText (fun _ => rfl) with h | h
    · exact Or.inl h
    · exact Or.inr (Or.inr (Or.inl h))
  | excludeText => exact Or.inl rfl
  | excludeItem => exact Or.inl rfl
  | excludeKind h => exact Or.inr (Or.inl ⟨rfl, h⟩)
  | versionText => exact Or.inl rfl
  | @versionDigits text count h hn => exact Or.inr (Or.inr (Or.inr ⟨text, count, rfl, h, hn⟩))
  | @switch s =>
    rcases hrefusal s (.notBoolean s.key) (fun _ => rfl) with h | h
    · exact Or.inl h
    · exact Or.inr (Or.inr (Or.inl h))

/-- The first refusal is a refusal. -/
lemma FirstRefusal.exists_refuses {value : Setting → Value} {cs : List Check}
    (h : FirstRefusal value cs f) : ∃ c ∈ cs, Refuses value c f := by
  induction h with
  | @here c cs f h => exact ⟨c, by simp, h⟩
  | later _ _ ih =>
    obtain ⟨c, hc, h⟩ := ih
    exact ⟨c, List.mem_cons_of_mem _ hc, h⟩

/-- Loading returns a configuration exactly if the settings file does not end it, the version is
given as a text that names one, the excluded names are a list of texts or a table, and all switches
are true or false.  Otherwise it fails with a failure about a setting, unless the settings file ends
it or a check meets what it does not foresee. -/
theorem load_returns_iff (d : Disk) (root project : Path) (o : Overrides) :
    let file := project.child fileName
    let value := effective o (tableOf d file)
    (∀ s, Counts o (tableOf d file) s (value s)) ∧
      ((∃ config, (Config.load d root project o).1 = .ok config) ↔
        (∀ f, ¬ Withholds d file f) ∧
          (∃ text version, value .version = .text text ∧ Version.ofText text = .ok version) ∧
          ((∃ texts : List String, value .exclude = .list (texts.map .text)) ∨
            ∃ items, value .exclude = .table items) ∧
          ∀ s ∈ [Setting.respectListing, .sort, .verbose], ∃ b, value s = .boolean b) ∧
      ∀ f, (Config.load d root project o).1 = .error f →
        f.isAboutSetting = true ∨ Withholds d file f ∨
          (f = .notIterable (value .exclude).kindName ∧ (value .exclude).isIterable = false) ∨
          (f = .tooLongToShow ∧ ∃ s, (value s).shown = none) ∨
          ∃ text count, f = .tooManyDigits count ∧ value .version = .text text ∧
            Version.ofText text = .error (.tooManyDigits count) := by
  intro file value
  refine ⟨fun s => counts_iff.2 rfl, ⟨?_, ?_⟩, ?_⟩
  · rintro ⟨config, hconfig⟩
    obtain ⟨hwithholds, -, ⟨text, htext, hversion⟩, hexclude, hrespect, hsort, hverbose⟩ :=
      load_eq_ok_iff.1 hconfig
    refine ⟨hwithholds, ⟨text, _, htext, hversion⟩, ?_, ?_⟩
    · rcases hexclude with hlist | ⟨items, htable, -⟩
      · exact Or.inl ⟨_, hlist⟩
      · exact Or.inr ⟨items, htable⟩
    · intro s hs
      simp only [List.mem_cons, List.not_mem_nil, or_false] at hs
      rcases hs with rfl | rfl | rfl
      · exact ⟨_, hrespect⟩
      · exact ⟨_, hsort⟩
      · exact ⟨_, hverbose⟩
  · -- the configuration is put together from the values
    rintro ⟨hwithholds, ⟨text, version, htext, hversion⟩, hexclude, hswitches⟩
    obtain ⟨exclude, hexclude⟩ : ∃ exclude : List String, value .exclude =
        .list (exclude.map .text) ∨ ∃ items, value .exclude = .table items ∧
          exclude = items.map Prod.fst := by
      rcases hexclude with ⟨texts, hlist⟩ | ⟨items, htable⟩
      · exact ⟨texts, Or.inl hlist⟩
      · exact ⟨_, Or.inr ⟨items, htable, rfl⟩⟩
    obtain ⟨respectListing, hrespect⟩ := hswitches .respectListing (by simp)
    obtain ⟨sort, hsort⟩ := hswitches .sort (by simp)
    obtain ⟨verbose, hverbose⟩ := hswitches .verbose (by simp)
    exact ⟨⟨root, version, respectListing, sort, verbose, exclude⟩, load_eq_ok_iff.2
      ⟨hwithholds, rfl, ⟨text, htext, hversion⟩, hexclude, hrespect, hsort, hverbose⟩⟩
  · intro f hf
    rcases load_eq_error_iff.1 hf with hwithholds | ⟨-, hfirst⟩
    · exact Or.inr (Or.inl hwithholds)
    · obtain ⟨c, -, hrefuses⟩ := hfirst.exists_refuses
      rcases hrefuses.isAboutSetting_or with habout | hunforeseen
      · exact Or.inl habout
      · exact Or.inr (Or.inr hunforeseen)

/-- A disk with nothing but a settings file. -/
def settingsDisk (text : String) : Disk where
  entries := [([fileName], .file text.toUTF8)]
  mentions := [[fileName]]

/-- A number instead of a list of excluded names is not foreseen: loading neither returns nor fails
with a failure about a setting. -/
theorem load_unforeseen_excludeNumber :
    (Config.load (settingsDisk "[tool.initgen]\nexclude = 5\n") ⟨"", ["p"]⟩ ⟨"", []⟩
        Overrides.none).1 = .error (.notIterable "int") ∧
      (Failure.notIterable "int").isAboutSetting = false := by
  decide +kernel

/-! ## Layers -/

/-- Values count the same if the tables agree on all settings that the caller does not give. -/
lemma effective_congr {others : Toml.Table}
    (h : ∀ s, o.value? s = none → settings.lookup s.key = others.lookup s.key) :
    effective o settings = effective o others := by
  funext s
  cases hgiven : o.value? s with
  | some v => simp [effective, hgiven]
  | none => simp [effective, hgiven, h s hgiven]

/-- Of two settings files that do not end the loading nothing is seen but the values of settings
that the caller does not give: if the files agree on these, loading returns the same configuration
or fails with the same failure.  The configuration has the values that come from the first layer
that has one, and the failure is that of the first check that refuses one of them. -/
theorem load_layers {d d' : Disk} {root project project' : Path} {o : Overrides}
    (hd : ∀ f, ¬ Withholds d (project.child fileName) f)
    (hd' : ∀ f, ¬ Withholds d' (project'.child fileName) f)
    (hagree : ∀ s, o.value? s = none →
      (tableOf d (project.child fileName)).lookup s.key =
        (tableOf d' (project'.child fileName)).lookup s.key) :
    (Config.load d root project o).1 = (Config.load d' root project' o).1 ∧
      ∃ value, (∀ s, Counts o (tableOf d (project.child fileName)) s (value s)) ∧
        (∀ config, (Config.load d root project o).1 = .ok config ↔
          config.root = root ∧ config.Has value) ∧
        ∀ f, (Config.load d root project o).1 = .error f ↔ FirstRefusal value checks f := by
  have hload {d : Disk} {project : Path} (h : ∀ f, ¬ Withholds d (project.child fileName) f) :
      (Config.load d root project o).1 =
        check root (effective o (tableOf d (project.child fileName))) := by
    rcases load_cases d root project o with ⟨f, -, hwithholds⟩ | ⟨hload, -⟩
    · exact absurd hwithholds (h f)
    · exact hload
  refine ⟨?_, effective o (tableOf d (project.child fileName)), fun s => counts_iff.2 rfl, ?_, ?_⟩
  · rw [hload hd, hload hd', effective_congr hagree]
  · intro config
    rw [hload hd, check_eq_ok_iff]
  · intro f
    rw [hload hd, check_eq_error_iff]

/-- A settings file whose switch is of a wrong kind, and with a setting that is not known. -/
def numberedDisk : Disk := settingsDisk "[tool.initgen]\nsort = 1\nother = 2\n"

/-- A settings file that is no document. -/
def garbledDisk : Disk := settingsDisk "no document"

/-- The caller gives the switch. -/
def sortGiven : Overrides := { Overrides.none with sort := some (.boolean false) }

/-- A switch of a wrong kind and a setting that is not known are not seen in a settings file if the
caller gives the switch: loading returns the same configuration as for a file that is no
document. -/
theorem load_layers_numberedDisk :
    (∀ f, ¬ Withholds numberedDisk (Path.child ⟨"", []⟩ fileName) f) ∧
      (∀ f, ¬ Withholds garbledDisk (Path.child ⟨"", []⟩ fileName) f) ∧
      (∀ s, sortGiven.value? s = none →
        (tableOf numberedDisk (Path.child ⟨"", []⟩ fileName)).lookup s.key =
          (tableOf garbledDisk (Path.child ⟨"", []⟩ fileName)).lookup s.key) ∧
      (Config.load numberedDisk ⟨"", ["p"]⟩ ⟨"", []⟩ sortGiven).1 =
        (Config.load garbledDisk ⟨"", ["p"]⟩ ⟨"", []⟩ sortGiven).1 := by
  have hnumbered : ∀ f, ¬ Withholds numberedDisk (Path.child ⟨"", []⟩ fileName) f := by
    have hload : (Config.load numberedDisk ⟨"", ["p"]⟩ ⟨"", []⟩ sortGiven).1 =
        .ok ⟨⟨"", ["p"]⟩, ⟨12⟩, true, false, false, []⟩ := by decide +kernel
    exact (load_eq_ok_iff.1 hload).1
  have hgarbled : ∀ f, ¬ Withholds garbledDisk (Path.child ⟨"", []⟩ fileName) f := by
    have hload : (Config.load garbledDisk ⟨"", ["p"]⟩ ⟨"", []⟩ sortGiven).1 =
        .ok ⟨⟨"", ["p"]⟩, ⟨12⟩, true, false, false, []⟩ := by decide +kernel
    exact (load_eq_ok_iff.1 hload).1
  have hagree : ∀ s, sortGiven.value? s = none →
      (tableOf numberedDisk (Path.child ⟨"", []⟩ fileName)).lookup s.key =
        (tableOf garbledDisk (Path.child ⟨"", []⟩ fileName)).lookup s.key := by
    intro s hs
    have hempty : tableOf garbledDisk (Path.child ⟨"", []⟩ fileName) = [] :=
      List.isEmpty_iff.1 (by decide +kernel)
    rw [hempty, List.lookup_nil, ← Option.isNone_iff_eq_none]
    cases s with
    | sort => cases hs
    | version => decide +kernel
    | exclude => decide +kernel
    | respectListing => decide +kernel
    | verbose => decide +kernel
  exact ⟨hnumbered, hgarbled, hagree, (load_layers hnumbered hgarbled hagree).1⟩

/-- What the text of a settings file without carriage returns is parsed as. -/
lemma document?_eq {text : String} {place : Location}
    (hr : d.resolve p = .found place (.file text.toUTF8)) (hreturn : '\r' ∉ text.toList) :
    document? d p = some (Toml.parse text.toList) := by
  have hfile : d.isFile p = true := by rw [Disk.isFile, hr]
  have hread : d.read p = .ok text.toUTF8 := by rw [Disk.read, hr]
  have htext : d.readText p = .ok text := by
    rw [Disk.readText, hread]
    dsimp only
    rw [Text.decode_toUTF8]
    dsimp only
    rw [Text.unifyNewlines_eq hreturn, String.ofList_toList]
  rw [document?, if_pos hfile, htext]
  rfl

end Settings

/-! ## A long integer -/

namespace Toml

open Reader

/-- A run of ones is read to its end. -/
lemma digitRun_replicate (n : ℕ) (afterDigit : Bool) :
    digitRun Char.isDigit afterDigit (List.replicate n '1') = (List.replicate n '1', []) := by
  induction n generalizing afterDigit with
  | zero => rfl
  | succ n ih => rw [List.replicate_succ, digitRun, if_pos (by decide), ih]

variable {n : ℕ}

/-- A run of ones that is too long is refused with its number of digits. -/
lemma decimal?_replicate (h : maxDigits ≤ n) :
    decimal? (List.replicate (n + 1) '1') = some (.error (.tooManyDigits (n + 1)), []) := by
  have hsign : sign (List.replicate (n + 1) '1') = (false, List.replicate (n + 1) '1') := rfl
  have hinteger :
      integerDigits? (List.replicate (n + 1) '1') = some (List.replicate (n + 1) '1', []) := by
    rw [← digitRun_replicate (n + 1) false]
    rfl
  unfold decimal?
  rw [hsign]
  simp [hinteger, fraction?, exponent?]
  omega

/-- An integer with more digits than may be read is told apart from texts that are malformed. -/
lemma run_scalar_replicate (h : maxDigits ≤ n) :
    scalar.run (List.replicate (n + 1) '1') = .error (.tooManyDigits (n + 1)) := by
  obtain ⟨m, rfl⟩ : ∃ m, n = m + 5 := by
    simp only [maxDigits] at h
    exact ⟨n - 5, by omega⟩
  have hmoment : moment? (List.replicate (m + 5 + 1) '1') = none := rfl
  have htime : timeOfDay? (List.replicate (m + 5 + 1) '1') = none := rfl
  have hbased : basedInteger? (List.replicate (m + 5 + 1) '1') = none := rfl
  unfold scalar
  simp only [StateT.run_bind, StateT.run_get, pure_bind, hmoment, htime, hbased,
    decimal?_replicate h, StateT.run_set]
  rfl

/-- A document whose first line gives a number fails as that number does. -/
lemma parse_of_run_scalar {rest : List Char} {fault : TextFault}
    (h : scalar.run ('1' :: rest) = .error fault) :
    parse ('x' :: '=' :: '1' :: rest) = .error fault := by
  -- the text gets a name, lest the steps in front of the number unfold it
  obtain ⟨cs, hcs⟩ : ∃ cs, 'x' :: '=' :: '1' :: rest = cs := ⟨_, rfl⟩
  have hvalue (depth : ℕ) : (value (depth + 1)).run ('1' :: rest) = .error fault := by
    rw [← h]
    rfl
  have hkeyValue (depth : ℕ) : (keyValue (value (depth + 1))).run cs = .error fault := by
    have hkey : key.run cs = .ok ([String.ofList ['x']], '=' :: '1' :: rest) := by
      rw [← hcs]
      rfl
    rw [keyValue, StateT.run_bind, hkey]
    change (value (depth + 1)).run ('1' :: rest) >>= _ = _
    rw [hvalue]
    rfl
  have hnext : next?.run cs = .ok (some 'x', cs) := by
    rw [← hcs]
    rfl
  have hok {α β : Type} (a : α) (f : α → Except TextFault β) : (Except.ok a >>= f) = f a := rfl
  have hstatement (d : Document) : (statement d).run cs = .error fault := by
    have hstart : (isKeyChar 'x' || 'x' == '"' || 'x' == '\'') = true := by decide
    rw [statement, StateT.run_bind, hnext, hok]
    dsimp only
    rw [if_pos hstart, StateT.run_bind, StateT.run_get, pure_bind, StateT.run_bind, hkeyValue]
    rfl
  have hlines (d : Document) (limit : ℕ) : (lines d (limit + 1)).run cs = .error fault := by
    have hblanks : skipBlanks.run cs = .ok ((), cs) := by
      rw [← hcs]
      rfl
    rw [lines, StateT.run_bind, hblanks, hok, StateT.run_bind, hnext, hok]
    change (statement d >>= _).run cs = _
    rw [StateT.run_bind, hstatement]
    rfl
  rw [hcs, parse, hlines]
  rfl

end Toml

namespace Settings

variable {n : ℕ}

/-- A settings file that gives an integer with `n + 1` digits. -/
def longNumberDisk (n : ℕ) : Disk :=
  settingsDisk ("x=" ++ String.ofList (List.replicate (n + 1) '1'))

/-- The settings file with the long integer is refused with its number of digits. -/
lemma document?_longNumberDisk (h : maxDigits ≤ n) :
    document? (longNumberDisk n) (Path.child ⟨"", []⟩ fileName) =
      some (.error (.tooManyDigits (n + 1))) := by
  obtain ⟨text, htext⟩ : ∃ text, "x=" ++ String.ofList (List.replicate (n + 1) '1') = text :=
    ⟨_, rfl⟩
  have hchars : text.toList = 'x' :: '=' :: '1' :: List.replicate n '1' := by
    simp [← htext, List.replicate_succ]
  have hreturn : '\r' ∉ text.toList := by
    simp [hchars]
  have hr : (settingsDisk text).resolve (Path.child ⟨"", []⟩ fileName) =
      .found [fileName] (.file text.toUTF8) := rfl
  rw [longNumberDisk, htext, document?_eq hr hreturn, hchars,
    Toml.parse_of_run_scalar (Toml.run_scalar_replicate h)]

/-- Too long an integer in a settings file is seen, although it belongs to no setting: loading fails
because of it, while it returns if there is no file. -/
theorem load_differs_longNumberDisk :
    HasToolTables Disk.empty (Path.child ⟨"", []⟩ fileName) ∧
      HasToolTables (longNumberDisk 4300) (Path.child ⟨"", []⟩ fileName) ∧
      tableOf Disk.empty (Path.child ⟨"", []⟩ fileName) =
        tableOf (longNumberDisk 4300) (Path.child ⟨"", []⟩ fileName) ∧
      (Config.load Disk.empty ⟨"", ["p"]⟩ ⟨"", []⟩ Overrides.none).1 =
        .ok ⟨⟨"", ["p"]⟩, ⟨12⟩, true, true, false, []⟩ ∧
      (Config.load (longNumberDisk 4300) ⟨"", ["p"]⟩ ⟨"", []⟩ Overrides.none).1 =
        .error (.tooManyDigits 4301) := by
  have hlong := document?_longNumberDisk (n := 4300) le_rfl
  have hempty : document? Disk.empty (Path.child ⟨"", []⟩ fileName) = none := rfl
  refine ⟨?_, ?_, ?_, ?_, ?_⟩
  · intro t ht
    rw [hempty] at ht
    cases ht
  · intro t ht
    rw [hlong] at ht
    cases ht
  · rw [tableOf, tableOf, hempty, hlong]
  · decide +kernel
  · exact load_eq_error_iff.2 (Or.inl (.digits hlong))

end Settings

end PackageIndex
