import PackageIndex.CommandLine
import PackageIndex.Disk.Edit

/-!
# The program

Reads everything below the working directory, runs the command line on it, and writes the files
that the run changed.  Nothing is decided here.
-/

namespace PackageIndex.Program

/-- A link as seen from the working directory `top`: its target is given from there if it lies
inside. -/
def linkNode (top target : String) : Node :=
  let inside := (top ++ "/").toList
  if inside.isPrefixOf target.toList then
    .link ("/" ++ String.ofList (target.toList.drop inside.length))
  else .link target

/-- What stands at an entry of a directory. -/
def nodeOf (top : String) (entry : IO.FS.DirEntry) : IO Node := do
  match (← entry.path.symlinkMetadata).type with
  | .dir => return .directory
  | .file => return .file (← IO.FS.readBinFile entry.path)
  | .symlink =>
    let target ← try pure (← IO.FS.realPath entry.path).toString catch _ => pure ""
    return linkNode top target
  | .other => return .pipe

/-- Everything at and below the entries of a directory, in the order in which they are listed. -/
partial def entriesOf (top : String) (directory : Location) (listed : Array IO.FS.DirEntry) :
    IO (List (Location × Node)) := do
  let mut entries : List (Location × Node) := []
  for entry in listed do
    let place := directory ++ [entry.fileName]
    let node ← nodeOf top entry
    let below ← match node with
      | .directory => entriesOf top place (← entry.path.readDir)
      | _ => pure []
    entries := entries ++ (place, node) :: below
  return entries

/-- The disk below the working directory. -/
def loadDisk : IO Disk := do
  let top ← IO.currentDir
  let entries ← entriesOf top.toString [] (← top.readDir)
  return ⟨entries, entries.map Prod.fst⟩

/-- Runs the command line given by the arguments. -/
def run (arguments : List String) : IO UInt32 := do
  let disk ← loadDisk
  let outcome := runCommand disk arguments
  for (path, content) in Disk.changedFiles disk outcome.disk do
    IO.FS.writeBinFile path content
  for line in outcome.notices.flatMap Notice.lines do
    IO.eprintln line
  for failure in outcome.unreported do
    IO.eprintln failure.message
  return outcome.exitCode.toUInt32

end PackageIndex.Program

/-- The program. -/
def main (arguments : List String) : IO UInt32 := PackageIndex.Program.run arguments
