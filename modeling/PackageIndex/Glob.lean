/-!
# Globs

A glob is matched against a whole name: a star stands for any characters, a question mark for one,
and a class in brackets for one character out of a set, or outside of it if the class begins with an
exclamation mark.  Everything else stands for itself, and so does a bracket that is never closed.

A class is cut into chunks at those hyphens that have a character on both sides; a range goes from
the last character of a chunk to the first one of the next.  A range whose ends are in the wrong
order vanishes with its ends before the class is read any further.
-/

namespace PackageIndex.Glob

/-- A set of characters, given by ranges. -/
structure CharClass where
  negated : Bool
  ranges : List (Char × Char)
deriving DecidableEq, Repr

/-- The character is in the set. -/
def CharClass.contains (s : CharClass) (c : Char) : Bool :=
  (s.ranges.any fun r => r.1 ≤ c && c ≤ r.2) != s.negated

/-- What a part of a glob stands for. -/
inductive Item where
  /-- Any characters. -/
  | star
  /-- One character out of a set. -/
  | one (set : CharClass)
deriving DecidableEq, Repr

/-- The set of all characters. -/
def anyChar : CharClass := ⟨true, []⟩

/-- The set of one character. -/
def single (c : Char) : CharClass := ⟨false, [(c, c)]⟩

/-! ### Classes -/

/-- The inside of a class, given the characters behind its opening bracket; `none` if it is never
closed.  A closing bracket does not close a class that it would leave empty. -/
def classBody? (cs : List Char) : Option (List Char) :=
  let negation := if cs.head? = some '!' then 1 else 0
  let lead := if (cs.drop negation).head? = some ']' then negation + 1 else negation
  let body := cs.take lead ++ (cs.drop lead).takeWhile (· ≠ ']')
  if body.length < cs.length then some body else none

/-- Cuts a class at hyphens.  `wait` characters have to be taken before the next hyphen can cut, so
that there is something on both of its sides. -/
def cut (wait : Nat) (chunk : List Char) : List Char → List (List Char)
  | [] => [chunk.reverse]
  | c :: rest =>
    if c = '-' ∧ wait = 0 then chunk.reverse :: cut 2 [] rest
    else cut (wait - 1) (c :: chunk) rest

/-- A hyphen at the end of a class stands for itself. -/
def closeLast : List (List Char) → List (List Char)
  | [chunk, []] => [chunk ++ ['-']]
  | chunk :: rest => chunk :: closeLast rest
  | [] => []

/-- Removes the ranges whose ends are in the wrong order, from the last to the first. -/
def dropEmptyRanges : List (List Char) → List (List Char)
  | [] => []
  | chunk :: rest =>
    match dropEmptyRanges rest with
    | [] => [chunk]
    | next :: others =>
      match chunk.getLast?, next.head? with
      | some a, some b =>
        if b < a then (chunk.dropLast ++ next.tail) :: others else chunk :: next :: others
      | _, _ => chunk :: next :: others

/-- The ranges of chunks: each character by itself, and what lies between two chunks; a hyphen with
nothing before it stands for itself. -/
def rangesOf : List (List Char) → List (Char × Char)
  | [] => []
  | chunk :: rest =>
    let between := match chunk.getLast?, rest.head?.bind List.head? with
      | some a, some b => [(a, b)]
      | _, _ => if rest.isEmpty then [] else [('-', '-')]
    chunk.map (fun c => (c, c)) ++ between ++ rangesOf rest

/-- The set of a class with the given inside. -/
def classOf (body : List Char) : CharClass :=
  let wait := if body.head? = some '!' then 2 else 1
  match dropEmptyRanges (closeLast (cut wait [] body)) with
  | ('!' :: chunk) :: rest => ⟨true, rangesOf (chunk :: rest)⟩
  | chunks => ⟨false, rangesOf chunks⟩

/-! ### Patterns -/

/-- The parts of a glob; the next `skipped` characters belong to a class that was read already. -/
def itemsFrom (skipped : Nat) : List Char → List Item
  | [] => []
  | c :: rest =>
    if 0 < skipped then itemsFrom (skipped - 1) rest
    else if c = '*' then .star :: itemsFrom 0 rest
    else if c = '?' then .one anyChar :: itemsFrom 0 rest
    else if c = '[' then
      match classBody? rest with
      | some body => .one (classOf body) :: itemsFrom (body.length + 1) rest
      | none => .one (single c) :: itemsFrom 0 rest
    else .one (single c) :: itemsFrom 0 rest

/-- The parts of a glob. -/
def items (pattern : String) : List Item := itemsFrom 0 pattern.toList

/-! ### Matching -/

/-- For a part of a glob in front of others: which ends of a name they match together, given which
ends the others match alone.  Both lists begin with the whole name and end with the empty end. -/
def matchRow (item : Item) : List Char → List Bool → List Bool
  | c :: cs, here :: next =>
    let row := matchRow item cs next
    match item with
    | .star => (here || row.headD false) :: row
    | .one set => (set.contains c && next.headD false) :: row
  | [], here :: _ =>
    match item with
    | .star => [here]
    | .one _ => [false]
  | _, [] => []

/-- Which ends of a name the parts of a glob match. -/
def matchEnds (parts : List Item) (name : List Char) : List Bool :=
  parts.foldr (fun item row => matchRow item name row)
    (List.replicate name.length false ++ [true])

/-- A glob matches a name. -/
def isMatch (pattern name : String) : Bool :=
  (matchEnds (items pattern) name.toList).headD false

/-- Some of the globs match a name. -/
def isExcluded (patterns : List String) (name : String) : Bool :=
  patterns.any fun pattern => isMatch pattern name

end PackageIndex.Glob
