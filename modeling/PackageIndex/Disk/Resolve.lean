import PackageIndex.Disk.Basic
import PackageIndex.Path

/-!
# Resolution of paths

A path is followed step by step.  A symbolic link on the way is replaced by the steps of its target;
so the steps left can grow, but at most forty links are followed.  The outcome tells what the path
leads to, or where it could lead to if something were created there, or why it leads nowhere.
-/

namespace PackageIndex

/-- Why a path leads nowhere or cannot be used. -/
inductive Fault where
  | notFound
  | notDirectory
  | isDirectory
  | tooManyLinks
deriving DecidableEq, Repr

/-- What a path leads to. -/
inductive Resolution where
  /-- A place where something stands that is no link. -/
  | found (place : Location) (node : Node)
  /-- A place in an existing directory where nothing stands; `asDirectory` tells that only a
  directory may be created there. -/
  | vacant (place : Location) (asDirectory : Bool)
  /-- Nowhere. -/
  | fault (f : Fault)
deriving DecidableEq

namespace Disk

/-- The steps of the target of a link; an empty one at the end stands for a slash there. -/
def targetSteps (target : String) : List String :=
  let steps := Path.splitSlashes target
  if target.toList.getLast? = some '/' ∧ ¬ steps.isEmpty then steps ++ [""] else steps

/-- How far the steps up to the next link lead. -/
inductive Stride where
  | arrived (outcome : Resolution)
  | link (directory : Location) (target : String) (steps : List String)

/-- Follows steps from a directory up to the next link. -/
def stride (d : Disk) (directory : Location) : List String → Stride
  | [] => .arrived (.found directory .directory)
  | step :: steps =>
    if step = "" ∨ step = "." then d.stride directory steps
    else if step = ".." then d.stride directory.dropLast steps
    else
      let place := directory ++ [step]
      match d.node? place with
      | some .directory => d.stride place steps
      | some (.link target) => .link directory target steps
      | some node => .arrived (if steps = [] then .found place node else .fault .notDirectory)
      | none =>
        .arrived (if steps = [] then .vacant place false
          else if steps = [""] then .vacant place true
          else .fault .notFound)

/-- Follows steps from a directory through at most `links` links. -/
def follow (d : Disk) : Nat → Location → List String → Resolution
  | links, directory, steps =>
    match d.stride directory steps with
    | .arrived outcome => outcome
    | .link origin target rest =>
      match links with
      | 0 => .fault .tooManyLinks
      | links + 1 =>
        if target.isEmpty then .fault .notFound
        else
          let start := if target.toList.head? = some '/' then [] else origin
          d.follow links start (targetSteps target ++ rest)

/-- The greatest number of links that are followed. -/
def maxLinks : Nat := 40

/-- What a path leads to, links at its end included. -/
def resolve (d : Disk) (p : Path) : Resolution := d.follow maxLinks [] p.parts

/-- The path leads to something. -/
def pathExists (d : Disk) (p : Path) : Bool :=
  match d.resolve p with
  | .found _ _ => true
  | _ => false

/-- The path leads to a directory. -/
def isDirectory (d : Disk) (p : Path) : Bool :=
  match d.resolve p with
  | .found _ .directory => true
  | _ => false

/-- The path leads to a regular file. -/
def isFile (d : Disk) (p : Path) : Bool :=
  match d.resolve p with
  | .found _ (.file _) => true
  | _ => false

/-- The bytes of the file that a path leads to.  A pipe holds none. -/
def read (d : Disk) (p : Path) : Except Fault ByteArray :=
  match d.resolve p with
  | .found _ (.file content) => .ok content
  | .found _ .directory => .error .isDirectory
  | .found _ _ => .ok ByteArray.empty
  | .vacant _ _ => .error .notFound
  | .fault f => .error f

/-- The steps before a last name, if slashes follow that name. -/
def stepsBeforeSlash? (steps : List String) : Option (List String) :=
  match steps.reverse.span (· = "") with
  | (_ :: _, name :: front) => if name = "." ∨ name = ".." then none else some front.reverse
  | _ => none

/-- Following steps through at most `links` links comes, in a directory, to a last name that a slash
follows.  Only a directory can be meant there, so that nothing is opened to be written, and it does
not matter what stands under the name. -/
def comesToSlash (d : Disk) : Nat → Location → List String → Bool
  | links, directory, steps =>
    match stepsBeforeSlash? steps with
    | some front =>
      match d.follow links directory front with
      | .found _ .directory => true
      | _ => false
    | none =>
      match d.stride directory steps with
      | .arrived _ => false
      | .link origin target rest =>
        match links with
        | 0 => false
        | links + 1 =>
          let start := if target.toList.head? = some '/' then [] else origin
          d.comesToSlash links start (targetSteps target ++ rest)

/-- The disk after bytes were written to the file that a path leads to, which is created if nothing
stands there.  What is written to a pipe is not kept. -/
def write (d : Disk) (p : Path) (content : ByteArray) : Except Fault Disk :=
  match d.resolve p with
  | .found place (.file _) | .vacant place false => .ok (d.set place (.file content))
  | .found _ .directory | .vacant _ true => .error .isDirectory
  | .found _ _ => .ok d
  | .fault f => .error (if d.comesToSlash maxLinks [] p.parts then .isDirectory else f)

/-- The names of the children of the directory that a path leads to, and its location. -/
def list (d : Disk) (p : Path) : Except Fault (Location × List String) :=
  match d.resolve p with
  | .found place .directory => .ok (place, d.childNames place)
  | .found _ _ => .error .notDirectory
  | .vacant _ _ => .error .notFound
  | .fault f => .error f

end Disk

/-- What is said of a fault of a path. -/
def Fault.message (f : Fault) (shownPath : String) : String :=
  let reason := match f with
    | .notFound => "[Errno 2] No such file or directory: "
    | .notDirectory => "[Errno 20] Not a directory: "
    | .isDirectory => "[Errno 21] Is a directory: "
    | .tooManyLinks => "[Errno 40] Too many levels of symbolic links: "
  reason ++ shownPath

end PackageIndex
