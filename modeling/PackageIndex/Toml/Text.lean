import PackageIndex.Source.Escape
import PackageIndex.Toml.Reader

/-!
# Texts in settings files

A text stands between quotes.  Between single ones every character stands for itself; between
double ones a backslash begins an escape sequence.  Three quotes at each end let the text go over
lines, and up to two further quotes before the closing three belong to it.
-/

namespace PackageIndex.Toml

open Reader

/-- The character that a backslash and one letter stand for. -/
def simpleEscape? : Char → Option Char
  | 'b' => some '\x08'
  | 't' => some '\t'
  | 'n' => some '\n'
  | 'f' => some '\x0c'
  | 'r' => some '\r'
  | '"' => some '"'
  | '\\' => some '\\'
  | _ => none

/-- The character given by that many hexadecimal digits. -/
def hexCharacter (count : Nat) : Reader (List Char) := do
  let n ← lift (Source.hexDigits count)
  match Source.characterOf? n with
  | some c => do
    ensure (n ≤ 0x10ffff)
    return [c]
  | none => refuse

/-- Skips the end of a line behind a backslash, with all blanks and empty lines that follow; at the
end of the text nothing has to follow. -/
def lineEscape : Reader (List Char) := do
  skipBlanks
  match ← next? with
  | none => return []
  | some c =>
    ensure (c == '\n')
    let _ ← takeRun fun c => isBlank c || c == '\n'
    return []

/-- What the characters behind a backslash stand for. -/
def escaped (multiline : Bool) : Reader (List Char) := do
  match ← next? with
  | none => refuse
  | some c =>
    if multiline && (isBlank c || c == '\n') then lineEscape
    else
      skip 1
      if c == 'u' then hexCharacter 4
      else if c == 'U' then hexCharacter 8
      else match simpleEscape? c with
        | some d => return [d]
        | none => refuse

/-- The characters up to the closing double quotes, in at most `limit` steps; `done` holds those
before them in reverse. -/
def basicText (multiline : Bool) (done : List Char) : Nat → Reader (List Char)
  | 0 => refuse
  | limit + 1 => do
    match ← next? with
    | none => refuse
    | some c =>
      if c == '"' && ! multiline then
        skip 1
        return done.reverse
      else if c == '"' && (← startsWith ['"', '"', '"']) then
        skip 3
        return done.reverse
      else if c == '\\' then
        skip 1
        let cs ← escaped multiline
        basicText multiline (cs.reverse ++ done) limit
      else
        ensure (! isControl c || (multiline && c == '\n'))
        skip 1
        basicText multiline (c :: done) limit

/-- A text of one line between double quotes, the first of which was taken. -/
def lineText : Reader (List Char) := do
  basicText false [] ((← get).length + 1)

/-- A text of one line between single quotes, the first of which was taken. -/
def literalText : Reader (List Char) := do
  let cs ← takeRun (· != '\'')
  ensure (← trySkip ['\''])
  ensure (! cs.any isControl)
  return cs

/-- The characters before the first three single quotes, and the rest behind them. -/
def untilTriple (done : List Char) : List Char → Option (List Char × List Char)
  | [] => none
  | c :: rest =>
    if c = '\'' ∧ rest.take 2 = ['\'', '\''] then some (done.reverse, rest.drop 2)
    else untilTriple (c :: done) rest

/-- The characters of a text over lines up to the first three closing quotes. -/
def linesBody (quote : Char) : Reader (List Char) := do
  if quote == '"' then basicText true [] ((← get).length + 1)
  else
    let cs ← lift (untilTriple [])
    ensure (! cs.any fun c => isControl c && c != '\n')
    return cs

/-- A text over lines, whose three opening quotes were taken. -/
def linesText (quote : Char) : Reader (List Char) := do
  let _ ← trySkip ['\n']
  let cs ← linesBody quote
  if ← trySkip [quote] then
    if ← trySkip [quote] then return cs ++ [quote, quote] else return cs ++ [quote]
  else return cs

/-- A text that begins with the given quote, which comes next. -/
def textValue (quote : Char) : Reader (List Char) := do
  if ← trySkip [quote, quote, quote] then linesText quote
  else
    skip 1
    if quote == '"' then lineText else literalText

end PackageIndex.Toml
