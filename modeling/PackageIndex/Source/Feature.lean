/-!
# Features of language versions

The constructs that older versions of the language do not know.  A version is given by its minor
number; everything that is not listed here belongs to all versions.
-/

namespace PackageIndex.Source

/-- A construct that came with a later version of the language. -/
inductive Feature where
  /-- An assignment inside an expression. -/
  | assignmentExpression
  /-- A slash among the parameters of a function. -/
  | positionalOnly
  /-- A replacement field that shows its expression. -/
  | shownField
  /-- Parentheses around the items of a with statement. -/
  | parenthesizedItems
  /-- A statement that matches patterns. -/
  | matchStatement
  /-- A handler for the exceptions of a group. -/
  | groupHandler
deriving DecidableEq, Repr

/-- The minor number of the first version that knows the feature. -/
def Feature.since : Feature → Nat
  | .assignmentExpression | .positionalOnly | .shownField => 8
  | .parenthesizedItems => 9
  | .matchStatement => 10
  | .groupHandler => 11

end PackageIndex.Source
