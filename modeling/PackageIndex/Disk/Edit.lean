import PackageIndex.Disk.Resolve

/-!
# Changes of a disk

Making and removing places from outside of a run, and comparing two disks.  Whatever is made by its
path is mentioned by it, together with the directories above; a directory that is removed forgets
what was mentioned below it, but keeps its own turn.
-/

namespace PackageIndex.Disk

/-- The path of the directory that a path lies in. -/
def parentPath (p : Path) : Path := { p with parts := p.parts.dropLast }

/-- The disk with a directory at the end of every beginning of a path, as far as nothing stands in
the way. -/
def makeDirectories (d : Disk) (p : Path) : Disk :=
  (List.range p.parts.length).foldl (fun disk i =>
    match disk.resolve { p with parts := p.parts.take (i + 1) } with
    | .vacant place _ => disk.set place .directory
    | _ => disk) d

/-- The disk on which a path and all that it begins with are mentioned. -/
def mention (d : Disk) (p : Path) : Disk :=
  let places := (List.range p.parts.length).map fun i => p.parts.take (i + 1)
  { d with mentions := d.mentions ++ places.filter (! d.mentions.contains ·) }

/-- The location that a path names, links at its end not followed. -/
def placeOf? (d : Disk) (p : Path) : Option Location :=
  match d.resolve (parentPath p), p.parts.getLast? with
  | .found place .directory, some name => some (place ++ [name])
  | _, _ => none

/-- The disk with a node made at a path.  A file is written through links, and a directory that is
there stays; everything else is replaced. -/
def make (d : Disk) (p : Path) (node : Node) : Disk :=
  let d := (d.makeDirectories (parentPath p)).mention p
  match node with
  | .file content => (d.write p content).toOption.getD d
  | .directory => d.makeDirectories p
  | node => match d.placeOf? p with
    | some place => d.set place node
    | none => d

/-- The disk without what stands at a path and everything below. -/
def remove (d : Disk) (p : Path) : Disk :=
  match d.placeOf? p with
  | none => d
  | some place =>
    { entries := d.entries.filter fun entry => ! place.isPrefixOf entry.1
      mentions := d.mentions.filter fun m => ! p.parts.isPrefixOf m || m == p.parts }

/-- A location as a text. -/
def showPlace (place : Location) : String := "/".intercalate place

/-- Everything on the disk by its text, in the order of code points. -/
def sortedEntries (d : Disk) : List (String × Node) :=
  (d.entries.map fun entry => (showPlace entry.1, entry.2)).mergeSort fun a b => a.1 ≤ b.1

/-- The regular files of a disk that an older one lacks or has with other bytes, in the order of
code points. -/
def changedFiles (old new : Disk) : List (String × ByteArray) :=
  let isChanged (entry : Location × Node) : Bool :=
    old.entries.lookup entry.1 ≠ some entry.2
  let changed : Disk := { new with entries := new.entries.filter isChanged }
  changed.sortedEntries.filterMap fun entry =>
    match entry.2 with
    | .file content => some (entry.1, content)
    | _ => none

end PackageIndex.Disk
