/-!
# Syntax trees

The part of the syntax tree of a source that tells which names it binds at its top level: whether
an expression can be assigned to, the names and text constants directly inside displays, and for
each statement the names it defines.  Everything else is kept as an unspecified node.
-/

namespace PackageIndex.Source

/-- An expression. -/
inductive Expr where
  | name (id : String)
  | text (value : String)
  | tuple (elements : List Expr)
  | list (elements : List Expr)
  | starred (operand : Expr)
  /-- An attribute or an element of another expression. -/
  | place
  /-- An expression of any other kind. -/
  | other
deriving Repr, Inhabited

/-- A statement. -/
inductive Stmt where
  /-- The definition of a function or a class. -/
  | definition (name : String)
  /-- An assignment of one value to all targets, from left to right. -/
  | assignment (targets : List Expr) (value : Expr)
  /-- A statement of any other kind. -/
  | other
deriving Repr

/-- The tree of a whole source; a tree of another kind than a module has no statements of its
own. -/
inductive Tree where
  | module (body : List Stmt)
  | other
deriving Repr

/-- The spelling of the name that lists what a module exposes. -/
def listingName : String := "__all__"

mutual

/-- An expression that can be assigned to; each element of a display may be starred. -/
def Expr.isTarget : Expr → Bool
  | .name _ | .place => true
  | .tuple elements | .list elements => allElementTargets elements
  | .text _ | .starred _ | .other => false

/-- Every element can be assigned to, with or without a star. -/
def allElementTargets : List Expr → Bool
  | [] => true
  | .starred e :: rest => e.isTarget && allElementTargets rest
  | e :: rest => e.isTarget && allElementTargets rest

end

mutual

/-- An expression whose binding can be deleted. -/
def Expr.isDeletable : Expr → Bool
  | .name _ | .place => true
  | .tuple elements | .list elements => allDeletable elements
  | .text _ | .starred _ | .other => false

/-- The bindings of all these can be deleted. -/
def allDeletable : List Expr → Bool
  | [] => true
  | e :: rest => e.isDeletable && allDeletable rest

end

/-- A target that stands for one place: a name, an attribute or an element. -/
def Expr.isSingleTarget : Expr → Bool
  | .name _ | .place => true
  | _ => false

/-- A target on the left of an assignment, which may be starred as a whole. -/
def Expr.isStarTarget : Expr → Bool
  | .starred e => e.isTarget
  | e => e.isTarget

end PackageIndex.Source
