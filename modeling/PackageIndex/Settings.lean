import PackageIndex.Config
import PackageIndex.Generate
import PackageIndex.Toml.Document

/-!
# Settings

A configuration is made of three layers: what the caller gives, what the settings file of a project
says, and defaults.  For each setting the first layer that has a value for it counts, and then the
value is checked.  A settings file that is missing or cannot be read counts as empty.
-/

namespace PackageIndex

/-- A setting. -/
inductive Setting where
  | version
  | exclude
  | respectListing
  | sort
  | verbose
deriving DecidableEq, Repr

/-- The name of a setting in a settings file. -/
def Setting.key : Setting → String
  | .version => "python-version"
  | .exclude => "exclude"
  | .respectListing => "respect-all"
  | .sort => "sort"
  | .verbose => "verbose"

/-- The value of a setting that nothing is said about. -/
def Setting.default : Setting → Value
  | .version => .text "3.12"
  | .exclude => .list []
  | .respectListing | .sort => .boolean true
  | .verbose => .boolean false

/-- Values that the caller gives. -/
structure Overrides where
  version : Option Value
  exclude : Option Value
  respectListing : Option Value
  sort : Option Value
  verbose : Option Value

namespace Overrides

/-- Nothing is given. -/
def none : Overrides := ⟨.none, .none, .none, .none, .none⟩

/-- The value that is given for a setting. -/
def value? (o : Overrides) : Setting → Option Value
  | .version => o.version
  | .exclude => o.exclude
  | .respectListing => o.respectListing
  | .sort => o.sort
  | .verbose => o.verbose

end Overrides

namespace Settings

/-! ### The settings file -/

/-- The name of a settings file. -/
def fileName : String := "pyproject.toml"

/-- The table of all tools in a settings file. -/
def toolsKey : String := "tool"

/-- The table of this program among those of all tools. -/
def programKey : String := "initgen"

/-- A value of a table; a missing one counts as an empty table. -/
def subtable (t : Toml.Table) (name : String) : Value := (t.lookup name).getD (.table [])

/-- The settings in the table of a settings file, or `none` if they are no table. -/
def settingsIn (t : Toml.Table) : Except Failure (Option Toml.Table) :=
  match subtable t toolsKey with
  | .table tools =>
    match subtable tools programKey with
    | .table settings => .ok (some settings)
    | _ => .ok none
  | v => .error (.noNames v.kindName)

/-- The table of the settings file that a path leads to; `none` if it cannot be read. -/
def readTable (d : Disk) (p : Path) : Except Failure (Option Toml.Table) :=
  match d.readText p with
  | .error _ => .ok none
  | .ok text =>
    match Toml.parse text.toList with
    | .ok t => .ok (some t)
    | .error .malformed => .ok none
    | .error (.tooManyDigits count) => .error (.tooManyDigits count)

/-- The settings of the file that a path leads to, and what has to be told about it. -/
def ofFile (d : Disk) (p : Path) : Except Failure (Toml.Table × List Notice) :=
  if ! d.isFile p then .ok ([], [])
  else
    match readTable d p with
    | .error f => .error f
    | .ok none => .ok ([], [.settingsUnreadable p])
    | .ok (some t) =>
      match settingsIn t with
      | .error f => .error f
      | .ok none => .ok ([], [.settingsNotTable p])
      | .ok (some settings) => .ok (settings, [])

/-! ### Checks -/

/-- The value that counts for a setting. -/
def effective (o : Overrides) (settings : Toml.Table) (s : Setting) : Value :=
  ((o.value? s).orElse fun _ => settings.lookup s.key).getD s.default

/-- The failure of a check that shows the value it refuses. -/
def refuse {α : Type} (v : Value) (failure : String → Failure) : Except Failure α :=
  match v.shown with
  | some shown => .error (failure shown)
  | none => .error .tooLongToShow

/-- The version text of a value. -/
def versionText (v : Value) : Except Failure String :=
  match v with
  | .text s => .ok s
  | v => refuse v .versionNotText

/-- The value as a text. -/
def text? : Value → Option String
  | .text s => some s
  | _ => none

/-- The globs of a value: a list of texts, or the names in a table. -/
def globs (v : Value) : Except Failure (List String) :=
  match v with
  | .list items =>
    match items.mapM text? with
    | some texts => .ok texts
    | none => .error .excludeNotList
  | .table items => .ok (items.map Prod.fst)
  | .text _ => .error .excludeNotList
  | v => .error (.notIterable v.kindName)

/-- The version that a text names. -/
def versionOf (text : String) : Except Failure Version :=
  match Version.ofText text with
  | .ok version => .ok version
  | .error .invalid => .error (.invalidVersion text)
  | .error (.tooManyDigits count) => .error (.tooManyDigits count)

/-- The state of a switch. -/
def switch (s : Setting) (v : Value) : Except Failure Bool :=
  match v with
  | .boolean b => .ok b
  | v => refuse v (.notBoolean s.key)

/-- The configuration that the effective values make, checked one after the other. -/
def check (root : Path) (value : Setting → Value) : Except Failure Config := do
  let text ← versionText (value .version)
  let exclude ← globs (value .exclude)
  let version ← versionOf text
  let respectListing ← switch .respectListing (value .respectListing)
  let sort ← switch .sort (value .sort)
  let verbose ← switch .verbose (value .verbose)
  return { root, version, respectListing, sort, verbose, exclude }

end Settings

/-- The configuration for a start, with the settings file in a directory of the project, and what
has to be told on the way. -/
def Config.load (d : Disk) (root project : Path) (o : Overrides) :
    Except Failure Config × List Notice :=
  match Settings.ofFile d (project.child Settings.fileName) with
  | .error f => (.error f, [])
  | .ok (settings, notices) => (Settings.check root (Settings.effective o settings), notices)

end PackageIndex
