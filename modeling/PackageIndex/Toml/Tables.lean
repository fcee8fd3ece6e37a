import PackageIndex.Value

/-!
# Nested tables

A document builds its table from statements that name places by dotted keys.  Beside the table
itself it keeps which tables were defined, and so cannot be defined again, and which values were
given in one piece, and so cannot be added to.
-/

namespace PackageIndex.Toml

/-- Values by name, in the order in which they were given. -/
abbrev Table := List (String × Value)

/-- A dotted key. -/
abbrev Key := List String

/-- Puts a value under a name; one that is there keeps its place. -/
def Table.put (name : String) (v : Value) : Table → Table
  | [] => [(name, v)]
  | (key, old) :: rest =>
    if key = name then (key, v) :: rest else (key, old) :: Table.put name v rest

/-- Changes the table that a key leads to.  Tables that are missing on the way are made; if
`throughLists` is set, a list on the way stands for its last table.  Gives nothing if the way is
blocked by another value. -/
def Table.modify (throughLists : Bool) (f : Table → Option Table) : Key → Table → Option Table
  | [], t => f t
  | name :: key, t =>
    match t.lookup name with
    | none => (Table.modify throughLists f key []).map fun sub => t.put name (.table sub)
    | some (.table sub) =>
      (Table.modify throughLists f key sub).map fun sub => t.put name (.table sub)
    | some (.list items) =>
      match throughLists, items.getLast? with
      | true, some (.table sub) =>
        (Table.modify throughLists f key sub).map fun sub =>
          t.put name (.list (items.dropLast ++ [.table sub]))
      | _, _ => none
    | some _ => none

/-- The table with a new value; there must be none under the name. -/
def Table.addNew (name : String) (v : Value) (t : Table) : Option Table :=
  match t.lookup name with
  | none => some (t.put name v)
  | some _ => none

/-- The table with an empty table added to the list under a name. -/
def Table.addToList (name : String) (t : Table) : Option Table :=
  match t.lookup name with
  | none => some (t.put name (.list [.table []]))
  | some (.list items) => some (t.put name (.list (items ++ [.table []])))
  | some _ => none

/-- A document that is partly read: its table, the keys whose tables were defined, the keys whose
tables will count as defined from the next heading on, the keys of values that were given in one
piece, and the key of the current heading. -/
structure Document where
  table : Table
  defined : List Key
  pending : List Key
  closed : List Key
  heading : Key

namespace Document

/-- A document without statements. -/
def empty : Document := ⟨[], [], [], [], []⟩

/-- The key leads into a value that was given in one piece. -/
def isClosed (closed : List Key) (key : Key) : Bool := closed.any (·.isPrefixOf key)

/-- The document at a new heading: what is pending counts from now on. -/
def startHeading (d : Document) : Document :=
  { d with defined := d.pending ++ d.defined, pending := [] }

/-- The document behind a heading for a table. -/
def openTable (d : Document) (key : Key) : Option Document := do
  guard (! d.defined.contains key && ! isClosed d.closed key)
  let table ← d.table.modify true some key
  some { d with table, defined := key :: d.defined, heading := key }

/-- The document behind a heading for the next table of a list.  What was known of the table before
it is forgotten. -/
def openListItem (d : Document) (key : Key) : Option Document := do
  guard (! isClosed d.closed key)
  let table ← d.table.modify true (Table.addToList (key.getLast?.getD "")) key.dropLast
  let kept (keys : List Key) : List Key := keys.filter (! key.isPrefixOf ·)
  some { d with
    table
    defined := key :: kept d.defined
    closed := kept d.closed
    heading := key }

/-- The value is made of values. -/
def isComposite : Value → Bool
  | .table _ | .list _ => true
  | _ => false

/-- The document behind a value for a key below the current heading. -/
def assign (d : Document) (key : Key) (v : Value) : Option Document := do
  let inner := (List.range (key.length - 1)).map fun i => d.heading ++ key.take (i + 1)
  guard (! inner.any d.defined.contains)
  let parent := d.heading ++ key.dropLast
  guard (! isClosed d.closed parent)
  let table ← d.table.modify true (Table.addNew (key.getLast?.getD "") v) parent
  some { d with
    table
    pending := inner ++ d.pending
    closed := if isComposite v then (d.heading ++ key) :: d.closed else d.closed }

end Document

/-- A table in one piece that is partly read: the table, and the keys of composite values in it. -/
structure InlineTable where
  table : Table
  closed : List Key

/-- The table behind a value for a key. -/
def InlineTable.assign (t : InlineTable) (key : Key) (v : Value) : Option InlineTable := do
  guard (! Document.isClosed t.closed key)
  let table ← t.table.modify false (Table.addNew (key.getLast?.getD "") v) key.dropLast
  some ⟨table, if Document.isComposite v then key :: t.closed else t.closed⟩

end PackageIndex.Toml
