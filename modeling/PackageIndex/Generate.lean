import PackageIndex.Config
import PackageIndex.Exposure
import PackageIndex.Index.Render
import PackageIndex.Notice
import PackageIndex.Scan
import PackageIndex.Source.Module
import PackageIndex.Text.Newline

/-!
# Generation of indexes

A run visits a directory tree from its root.  Every directory that a source lies below, however
deep, gets an index of its children and of everything that they expose.  Children come before their
parents, and what was written before a failure stays.
-/

namespace PackageIndex

/-- How far a run has come: the disk as it is now, the indexes written and the notices given, in
order. -/
structure Progress where
  disk : Disk
  written : List Path
  notices : List Notice

/-- A run that has done nothing yet. -/
def Progress.start (disk : Disk) : Progress := ⟨disk, [], []⟩

/-- A step of a run: it moves the run on and has a result, or fails. -/
abbrev Run := ExceptT Failure (StateM Progress)

/-- The name of an index. -/
def indexName : String := "__init__.py"

/-- The suffix of a source. -/
def sourceSuffix : String := ".py"

/-- The greatest minor number that the grammar takes. -/
def maxMinor : Nat := 2147483647

/-! ### Sources -/

/-- The text of the file that a path leads to. -/
def Disk.readText (d : Disk) (p : Path) : Except ReadFault String :=
  match d.read p with
  | .error fault => .error (.disk fault)
  | .ok bytes =>
    match Text.decode bytes with
    | .error fault => .error (.undecodable fault)
    | .ok text => .ok (String.ofList (Text.unifyNewlines text.toList))

/-- The tree of the source that a path leads to. -/
def Disk.parse (d : Disk) (p : Path) (version : Version) : Except Failure Source.Tree :=
  match d.readText p with
  | .error fault => .error (.notRead p fault)
  | .ok text =>
    if maxMinor < version.minor then .error .minorTooLarge
    else match Source.Tree.ofChars? version.minor text.toList with
      | some tree => .ok tree
      | none => .error (.notParsed p)

/-! ### Indexes -/

/-- The disk with the index of statements written to a path.  Names are texts, so that the index can
always be encoded. -/
def Disk.writeIndex (d : Disk) (p : Path) (statements : List Statement) (sort : Bool) :
    Except Failure Disk :=
  match d.write p (Index.render statements sort).toUTF8 with
  | .ok disk => .ok disk
  | .error fault => .error (.notWritten p fault)

/-- The statements that a child adds to the index of its parent: itself, and all that it binds. -/
def statementsOfChild (stem : String) (statements : List Statement) : List Statement :=
  .module stem :: statements.map fun s => .member stem s.bound

/-! ### The visit -/

/-- Tells the user of an event, if every step is told. -/
def tell (config : Config) (notice : Notice) : Run Unit := do
  if config.verbose then
    modify fun s => { s with notices := s.notices ++ [notice] }

/-- The names that a source exposes, as statements. -/
def visitSource (config : Config) (p : Path) : Run (List Statement) := do
  let tree ← liftExcept ((← get).disk.parse p config.version)
  let names := tree.exposedNames config.respectListing
  tell config (.parsed p names.length)
  return names.map .module
where
  /-- A result that was computed already. -/
  liftExcept {α : Type} (result : Except Failure α) : Run α := ExceptT.mk (pure result)

/-- Writes the index of a directory, unless it is empty. -/
def finishDirectory (config : Config) (p : Path) (statements : List Statement) : Run Unit := do
  if ! statements.isEmpty then
    let target := p.child indexName
    let disk ← ExceptT.mk (pure ((← get).disk.writeIndex target statements config.sort))
    modify fun s => { s with disk, written := s.written ++ [target] }
    tell config (.wrote target)

/-- An entry is visited: it is no index, and it is a directory or a source by its name. -/
def Entry.isEligible (e : Entry) : Bool :=
  (e.isDirectory || e.path.suffix == sourceSuffix) && e.name != indexName

/-- The name under which an entry is imported. -/
def Entry.moduleName (e : Entry) : String := if e.isDirectory then e.name else e.path.stem

/-- The statements that a visited entry adds; a directory without any adds nothing. -/
def statementsOfEntry (config : Config) (e : Entry) (statements : List Statement) :
    Run (List Statement) := do
  if e.isDirectory && statements.isEmpty then
    tell config (.skippedEmpty e.path)
    return []
  else return statementsOfChild e.moduleName statements

/-- Visits what a path leads to and gives the statements that it exposes.  Directories are visited
at most `depth` deep.  A directory is listed once, but what its children are is seen when their turn
comes: a link to an index leads to a file as soon as that index is written. -/
def visit (config : Config) : Nat → Path → Run (List Statement)
  | depth, p => do
    let disk := (← get).disk
    if ! disk.pathExists p then throw (.missing p)
    else if disk.isDirectory p then
      match depth with
      | 0 => return []
      | depth + 1 =>
        let (place, names) ← ExceptT.mk (pure (disk.candidates config.exclude p))
        let parts ← names.mapM fun name => do
          match (← get).disk.entry? p place name with
          | some e =>
            if e.isEligible then statementsOfEntry config e (← visit config depth e.path)
            else return []
          | none => return []
        finishDirectory config p parts.flatten
        return parts.flatten
    else if disk.isFile p && p.suffix == sourceSuffix then visitSource config p
    else throw (.unsupported p)

/-- Writes all indexes of a configuration.  Below its root each directory lies one step deeper than
its parent, so that the depth of the disk bounds the visit. -/
def generate (config : Config) (disk : Disk) : Except Failure (List Statement) × Progress :=
  (visit config (disk.depth + 1) config.root).run (Progress.start disk)

end PackageIndex
