import PackageIndex.Toml.Moment
import PackageIndex.Toml.Number
import PackageIndex.Toml.Tables
import PackageIndex.Toml.Text

/-!
# Settings files

A settings file is a sequence of lines.  A line is empty, gives a value to a key, or is a heading,
below which all keys belong to one table.
-/

namespace PackageIndex.Toml

open Reader

/-! ### Keys -/

/-- The character may stand in a key without quotes. -/
def isKeyChar (c : Char) : Bool := c.isAlphanum || c == '-' || c == '_'

/-- A part of a dotted key. -/
def keyPart : Reader String := do
  match ← next? with
  | none => refuse
  | some c =>
    if isKeyChar c then String.ofList <$> takeRun isKeyChar
    else if c == '"' then
      skip 1
      String.ofList <$> lineText
    else if c == '\'' then
      skip 1
      String.ofList <$> literalText
    else refuse

/-- Further parts of a dotted key, at most `limit`. -/
def keyParts : Nat → Reader Key
  | 0 => refuse
  | limit + 1 => do
    skipBlanks
    if ← trySkip ['.'] then
      skipBlanks
      let part ← keyPart
      return part :: (← keyParts limit)
    else return []

/-- A dotted key. -/
def key : Reader Key := do
  let first ← keyPart
  return first :: (← keyParts ((← get).length + 1))

/-- A key with the value behind its equals sign, which `value` reads. -/
def keyValue (value : Reader Value) : Reader (Key × Value) := do
  let k ← key
  ensure (← trySkip ['='])
  skipBlanks
  return (k, ← value)

/-! ### Values -/

/-- Items of a list up to its closing bracket, at most `limit`. -/
def listItems (value : Reader Value) : Nat → Reader (List Value)
  | 0 => refuse
  | limit + 1 => do
    skipLines
    if ← trySkip [']'] then return []
    else
      let v ← value
      skipLines
      if ← trySkip [']'] then return [v]
      else
        ensure (← trySkip [','])
        return v :: (← listItems value limit)

/-- Entries of a table in one piece up to its closing brace, at most `limit`. -/
def inlineEntries (value : Reader Value) (t : InlineTable) : Nat → Reader Table
  | 0 => refuse
  | limit + 1 => do
    let (k, v) ← keyValue value
    match t.assign k v with
    | none => refuse
    | some t =>
      skipBlanks
      if ← trySkip ['}'] then return t.table
      else
        ensure (← trySkip [','])
        skipBlanks
        inlineEntries value t limit

/-- A table in one piece, whose opening brace was taken. -/
def inlineTable (value : Reader Value) : Reader Table := do
  skipBlanks
  if ← trySkip ['}'] then return []
  else inlineEntries value ⟨[], []⟩ ((← get).length + 1)

/-- A day, a time, a number or a word for one. -/
def scalar : Reader Value := do
  let cs ← get
  match moment? cs, timeOfDay? cs, basedInteger? cs, decimal? cs, specialFloat? cs with
  | some (day, v, rest), _, _, _, _ =>
    ensure (inCalendar day)
    set rest
    return v
  | none, some (time, rest), _, _, _ =>
    set rest
    return .time time
  | none, none, some (n, rest), _, _ =>
    set rest
    return .integer n
  | none, none, none, some (v, rest), _ =>
    set rest
    MonadExcept.ofExcept v
  | none, none, none, none, some (v, rest) =>
    set rest
    return v
  | none, none, none, none, none => refuse

/-- A value, with values inside each other at most `depth` deep. -/
def value : Nat → Reader Value
  | 0 => refuse
  | depth + 1 => do
    match ← next? with
    | none => refuse
    | some c =>
      if c == '"' || c == '\'' then (.text ∘ String.ofList) <$> textValue c
      else if ← trySkip "true".toList then return .boolean true
      else if ← trySkip "false".toList then return .boolean false
      else if ← trySkip ['['] then
        .list <$> listItems (value depth) ((← get).length + 1)
      else if ← trySkip ['{'] then .table <$> inlineTable (value depth)
      else scalar

/-! ### Lines -/

/-- A heading and the document behind it. -/
def headingLine (d : Document) : Reader Document := do
  let d := d.startHeading
  let isList ← trySkip ['[', '[']
  if ! isList then skip 1
  skipBlanks
  let k ← key
  match if isList then d.openListItem k else d.openTable k with
  | none => refuse
  | some d =>
    ensure (← trySkip (if isList then [']', ']'] else [']']))
    return d

/-- A line without its end, and the document behind it; the line is not empty. -/
def statement (d : Document) : Reader Document := do
  match ← next? with
  | none => return d
  | some c =>
    if isKeyChar c || c == '"' || c == '\'' then
      let (k, v) ← keyValue (value ((← get).length + 1))
      match d.assign k v with
      | none => refuse
      | some d => return d
    else if c == '[' then headingLine d
    else
      ensure (c == '#')
      return d

/-- The document behind all lines, of which there are at most `limit`. -/
def lines (d : Document) : Nat → Reader Document
  | 0 => refuse
  | limit + 1 => do
    skipBlanks
    match ← next? with
    | none => return d
    | some '\n' =>
      skip 1
      lines d limit
    | some _ =>
      let d ← statement d
      skipBlanks
      skipComment
      if (← next?).isNone then return d
      else
        ensure (← trySkip ['\n'])
        lines d limit

/-- The table of a settings file.  Every line takes a character at least, so that their number
bounds the lines. -/
def parse (cs : List Char) : Except TextFault Table :=
  ((lines .empty (cs.length + 1)).run cs).map (·.1.table)

end PackageIndex.Toml
