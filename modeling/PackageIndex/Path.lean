/-!
# Paths

A path names a place by the steps that lead there from the working directory or, if it is anchored,
from the top.  Empty steps and steps that stay in place are not kept; a step to the parent is, since
it may lead elsewhere behind a link.
-/

namespace PackageIndex

/-- A sequence of steps, and the slashes that it begins with: none, one or two. -/
structure Path where
  anchor : String
  parts : List String
deriving DecidableEq, Repr

namespace Path

/-- The anchor of a path that begins with the given characters.  Exactly two slashes are kept. -/
def anchorOf (cs : List Char) : String :=
  match (cs.takeWhile (· = '/')).length with
  | 0 => ""
  | 2 => "//"
  | _ => "/"

/-- The pieces of a text between slashes. -/
def splitSlashes (text : String) : List String :=
  (text.toList.splitBy fun a b => a ≠ '/' && b ≠ '/').filterMap fun piece =>
    if piece = ['/'] then none else some (String.ofList piece)

/-- The path that a text names. -/
def ofString (text : String) : Path :=
  ⟨anchorOf text.toList, (splitSlashes text).filter (· ≠ ".")⟩

/-- The path as it is shown: a single point if it stays in place. -/
def toString (p : Path) : String :=
  if p.anchor.isEmpty && p.parts.isEmpty then "."
  else p.anchor ++ "/".intercalate p.parts

/-- The path of a child. -/
def child (p : Path) (name : String) : Path := { p with parts := p.parts ++ [name] }

/-- The last step, or nothing. -/
def name (p : Path) : String := p.parts.getLast?.getD ""

/-- The stem and the suffix of a name: it is cut at its last point, unless that comes first or
last. -/
def splitName (name : String) : String × String :=
  let cs := name.toList
  let suffix := cs.reverse.takeWhile (· ≠ '.')
  let stem := cs.take (cs.length - suffix.length - 1)
  if suffix.length < cs.length ∧ ¬ stem.isEmpty ∧ ¬ suffix.isEmpty then
    (String.ofList stem, String.ofList ('.' :: suffix.reverse))
  else (name, "")

/-- The suffix of the last step, with its point. -/
def suffix (p : Path) : String := (splitName p.name).2

/-- The last step without its suffix. -/
def stem (p : Path) : String := (splitName p.name).1

end Path

end PackageIndex
