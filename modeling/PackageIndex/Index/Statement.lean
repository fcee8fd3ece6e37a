/-!
# Statements of an index

An index imports the modules of its package and, out of each of them, the names to pass on.
-/

namespace PackageIndex

/-- What an index imports. -/
inductive Statement where
  /-- The module of that name. -/
  | module (name : String)
  /-- A name out of a module. -/
  | member (source attr : String)
deriving DecidableEq, Repr

namespace Statement

/-- The name that a statement binds. -/
def bound : Statement → String
  | .module name => name
  | .member _ attr => attr

/-- The module that a statement imports as such. -/
def module? : Statement → Option String
  | .module name => some name
  | .member _ _ => none

/-- The name that a statement imports out of a module, behind the module. -/
def member? : Statement → Option (String × String)
  | .module _ => none
  | .member source attr => some (source, attr)

end Statement

end PackageIndex
