import PackageIndex.Source.Syntax

/-!
# Exposed names

A module exposes names that its top level binds: those of functions and classes, and those that an
assignment binds by its first target, which is a name or a tuple with names directly inside.  If the
module assigns a list to `__all__`, the texts in that list say which of the names are exposed;
otherwise all are that do not begin with a low line.
-/

namespace PackageIndex.Source

/-- The name of an expression that is a bare name. -/
def Expr.name? : Expr → Option String
  | .name id => some id
  | _ => none

/-- The value of an expression that is a text constant. -/
def Expr.text? : Expr → Option String
  | .text value => some value
  | _ => none

/-- The names that a target binds by itself: a bare name, or the bare names directly inside a
tuple. -/
def Expr.boundNames : Expr → List String
  | .name id => [id]
  | .tuple elements => elements.filterMap Expr.name?
  | _ => []

/-- The candidates among the names that a statement binds, in source order.  Of an assignment only
the first target counts. -/
def Stmt.candidates : Stmt → List String
  | .definition name => [name]
  | .assignment (target :: _) _ => target.boundNames
  | .assignment [] _ | .other => []

/-- The value that a statement assigns to the listing name and to nothing else. -/
def Stmt.listing? : Stmt → Option Expr
  | .assignment [.name id] value => if id = listingName then some value else none
  | _ => none

/-- The texts of the first listing of a module; `none` if there is no listing or the first one is
not a list. -/
def declaredNames (body : List Stmt) : Option (List String) :=
  match body.findSome? Stmt.listing? with
  | some (.list elements) => some (elements.filterMap Expr.text?)
  | _ => none

/-- The name begins with a low line. -/
def isPrivate (name : String) : Bool := name.toList.head? == some '_'

/-- Whether a candidate is exposed, given the texts of the listing if there is one. -/
def isExposed (declared : Option (List String)) (name : String) : Bool :=
  match declared with
  | some names => names.contains name
  | none => ! isPrivate name

/-- The names that the statements of a module expose, in source order and as often as they are
bound.  The listing counts if `respectListing` is set. -/
def exposedNamesOf (body : List Stmt) (respectListing : Bool) : List String :=
  let declared := if respectListing then declaredNames body else none
  (body.flatMap Stmt.candidates).filter (isExposed declared)

/-- The names that a tree exposes; only modules expose any. -/
def Tree.exposedNames (tree : Tree) (respectListing : Bool) : List String :=
  match tree with
  | .module body => exposedNamesOf body respectListing
  | .other => []

end PackageIndex.Source
