/-!
# Readers of settings files

A reader takes characters from the front of a text.  A text that is not well formed is refused
without saying why; only an integer with too many digits is told apart, because it is well formed.
-/

namespace PackageIndex.Toml

/-- Why a text is refused. -/
inductive TextFault where
  | malformed
  /-- An integer is given by that many digits. -/
  | tooManyDigits (count : Nat)
deriving DecidableEq, Repr

/-- Takes characters from the front of a text. -/
abbrev Reader := StateT (List Char) (Except TextFault)

namespace Reader

/-- Refuses the text. -/
def refuse {α : Type} : Reader α := throw .malformed

/-- Refuses the text unless the condition holds. -/
def ensure (condition : Bool) : Reader Unit := if condition then pure () else refuse

/-- The next character. -/
def next? : Reader (Option Char) := return (← get).head?

/-- The given characters follow. -/
def startsWith (cs : List Char) : Reader Bool := return cs.isPrefixOf (← get)

/-- Skips that many characters. -/
def skip (count : Nat) : Reader Unit := modify (·.drop count)

/-- Skips the given characters if they follow, and tells whether they did. -/
def trySkip (cs : List Char) : Reader Bool := do
  if ← startsWith cs then
    skip cs.length
    return true
  else return false

/-- Takes the longest run of characters of a kind. -/
def takeRun (p : Char → Bool) : Reader (List Char) := do
  let run := (← get).takeWhile p
  skip run.length
  return run

/-- Runs a function that takes something from the front of a text. -/
def lift {α : Type} (f : List Char → Option (α × List Char)) : Reader α := do
  match f (← get) with
  | some (a, rest) =>
    set rest
    return a
  | none => refuse

/-- A blank within a line. -/
def isBlank (c : Char) : Bool := c == ' ' || c == '\t'

/-- Skips blanks within a line. -/
def skipBlanks : Reader Unit := do
  let _ ← takeRun isBlank

/-- A control character other than a tab; none may stand in a comment or in a text of one line. -/
def isControl (c : Char) : Bool := (c.toNat < 32 && c != '\t') || c.toNat == 127

/-- Skips a comment up to the end of its line. -/
def skipComment : Reader Unit := do
  if ← startsWith ['#'] then
    let comment ← takeRun (· != '\n')
    ensure (! comment.any isControl)

/-- Skips blanks, ends of lines and comments, at most `limit` comments. -/
def skipLinesUpTo : Nat → Reader Unit
  | 0 => pure ()
  | limit + 1 => do
    let _ ← takeRun fun c => isBlank c || c == '\n'
    if ← startsWith ['#'] then
      skipComment
      skipLinesUpTo limit

/-- Skips blanks, ends of lines and comments. -/
def skipLines : Reader Unit := do
  skipLinesUpTo ((← get).length + 1)

end Reader

end PackageIndex.Toml
