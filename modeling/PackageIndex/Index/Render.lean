import PackageIndex.Index.Statement

/-!
# The text of an index

The text has three parts.  First comes a line for each imported module; then, for each module that
names are imported out of, a group of lines in parentheses; last the list of everything that the
lines above import, without repetitions.  The parts are ordered as the statements are, or sorted by
code points.
-/

namespace PackageIndex.Index

/-- The order of pairs by their first components, and among equal ones by the second. -/
def pairLe (p q : String × String) : Bool := p.1 < q.1 || (p.1 == q.1 && p.2 ≤ q.2)

/-- The modules that statements import as such, sorted if asked for. -/
def imports (statements : List Statement) (sort : Bool) : List String :=
  let names := statements.filterMap Statement.module?
  if sort then names.mergeSort (fun a b => a ≤ b) else names

/-- The names that statements import out of modules, sorted if asked for. -/
def members (statements : List Statement) (sort : Bool) : List (String × String) :=
  let pairs := statements.filterMap Statement.member?
  if sort then pairs.mergeSort pairLe else pairs

/-- Pairs grouped by their first components, in the order in which these first occur. -/
def groupPairs (pairs : List (String × String)) : List (String × List String) :=
  (pairs.map Prod.fst).eraseDups.map fun key =>
    (key, (pairs.filter fun p => p.1 == key).map Prod.snd)

/-- The groups of an index. -/
def groups (statements : List Statement) (sort : Bool) : List (String × List String) :=
  groupPairs (members statements sort)

/-- Everything that an index imports, in the order of its lines, without repetitions. -/
def listing (statements : List Statement) (sort : Bool) : List String :=
  (imports statements sort ++ (groups statements sort).flatMap Prod.snd).eraseDups

/-- The line that imports a module. -/
def importLine (name : String) : String := "from . import " ++ name

/-- The lines that import names out of a module. -/
def groupLines (group : String × List String) : List String :=
  ("from ." ++ group.1 ++ " import (") :: group.2.map (fun attr => "    " ++ attr ++ ",") ++ [")"]

/-- The line that lists a name. -/
def listingLine (name : String) : String := "    \"" ++ name ++ "\","

/-- The lines of an index. -/
def lines (statements : List Statement) (sort : Bool) : List String :=
  (imports statements sort).map importLine ++ [""] ++
    (groups statements sort).flatMap groupLines ++ [""] ++
    ["__all__ = ["] ++ (listing statements sort).map listingLine ++ ["]"]

/-- Lines as a text in which each of them is ended. -/
def unlines (ls : List String) : String := String.join (ls.map (· ++ "\n"))

/-- The text of an index. -/
def render (statements : List Statement) (sort : Bool) : String :=
  unlines (lines statements sort)

end PackageIndex.Index
