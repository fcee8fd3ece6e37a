import PackageIndex.Disk.Resolve
import PackageIndex.Failure
import PackageIndex.Glob

/-!
# Scans of directories

A scan lists the children of a directory that a run can use: real directories, and whatever leads to
a regular file.  Links to directories are left out, so that no directory is reached twice; so is
everything whose name matches a glob.
-/

namespace PackageIndex

/-- A child of a directory. -/
structure Entry where
  path : Path
  isDirectory : Bool
deriving DecidableEq, Repr

/-- The name of an entry. -/
def Entry.name (e : Entry) : String := e.path.name

namespace Disk

/-- The child of a directory as an entry, if a run can use it.  `directory` leads to `place`. -/
def entry? (d : Disk) (directory : Path) (place : Location) (name : String) : Option Entry :=
  let path := directory.child name
  match d.node? (place ++ [name]) with
  | some .directory => some ⟨path, true⟩
  | some (.file _) => some ⟨path, false⟩
  | some (.link _) => if d.isFile path then some ⟨path, false⟩ else none
  | some .pipe | none => none

/-- The location of the directory that a path leads to, and the names of its children in the order
in which they are listed; names that match one of the globs are left out. -/
def candidates (d : Disk) (exclude : List String) (directory : Path) :
    Except Failure (Location × List String) :=
  match d.list directory with
  | .ok (place, names) => .ok (place, names.filter (! Glob.isExcluded exclude ·))
  | .error .notFound => .error (.missing directory)
  | .error fault => .error (.notListed directory fault)

/-- The usable children of the directory that a path leads to, in the order in which they are
listed; names that match one of the globs are left out. -/
def scan (d : Disk) (exclude : List String) (directory : Path) : Except Failure (List Entry) :=
  match d.candidates exclude directory with
  | .ok (place, names) => .ok (names.filterMap (d.entry? directory place))
  | .error f => .error f

end Disk

end PackageIndex
