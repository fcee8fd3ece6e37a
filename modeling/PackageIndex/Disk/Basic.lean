/-!
# Disks

A disk is a finite tree of files, directories, symbolic links and named pipes below a working
directory, which is also its top.  Every place is known by its location, the names that lead to it
through real directories.  A disk also remembers in which order places were first mentioned, because
directories list their children in that order.

Names and targets are texts, and every text can be written as UTF-8.  A name whose bytes are no
UTF-8 is on no such disk, so that the text of an index can always be encoded.  There are no limits
on the lengths of names and paths, no permissions and no faults of the device.
-/

namespace PackageIndex

/-- The names that lead from the working directory to a place. -/
abbrev Location := List String

/-- What stands at a place. -/
inductive Node where
  | file (content : ByteArray)
  | directory
  | link (target : String)
  | pipe

/-- Nodes are compared with their contents and targets. -/
instance : DecidableEq Node
  | .file a, .file b =>
    match ByteArray.instDecidableEq a b with
    | .isTrue h => .isTrue (congrArg Node.file h)
    | .isFalse h => .isFalse fun hab => h (Node.file.inj hab)
  | .link s, .link t =>
    match decEq s t with
    | .isTrue h => .isTrue (congrArg Node.link h)
    | .isFalse h => .isFalse fun hst => h (Node.link.inj hst)
  | .directory, .directory | .pipe, .pipe => .isTrue rfl
  | .file _, .directory | .file _, .link _ | .file _, .pipe | .directory, .file _
  | .directory, .link _ | .directory, .pipe | .link _, .file _ | .link _, .directory
  | .link _, .pipe | .pipe, .file _ | .pipe, .directory | .pipe, .link _ => .isFalse nofun

/-- The places below the working directory and what stands there, and the places that were
mentioned, in order. -/
structure Disk where
  entries : List (Location × Node)
  mentions : List Location

namespace Disk

/-- A disk with nothing on it. -/
def empty : Disk := ⟨[], []⟩

/-- What stands at a location; at the top it is the working directory. -/
def node? (d : Disk) (place : Location) : Option Node :=
  if place = [] then some .directory else d.entries.lookup place

/-- The disk with another node at a location. -/
def set (d : Disk) (place : Location) (node : Node) : Disk :=
  { d with entries := (place, node) :: d.entries.filter (·.1 ≠ place) }

/-- The name of a place as a child of a directory. -/
def childOf? (directory place : Location) : Option String :=
  if place.dropLast = directory then place.getLast? else none

/-- The names of the children of a directory: first those that were mentioned, in that order, then
the others in the order of code points. -/
def childNames (d : Disk) (directory : Location) : List String :=
  let present := (d.entries.map Prod.fst).filterMap (childOf? directory)
  let mentioned := (d.mentions.filterMap (childOf? directory)).eraseDups
  mentioned.filter (present.contains ·) ++
    (present.filter (! mentioned.contains ·)).eraseDups.mergeSort (fun a b => a ≤ b)

/-- The greatest number of steps that lead to a place. -/
def depth (d : Disk) : Nat := (d.entries.map (·.1.length)).foldl max 0

end Disk

end PackageIndex
