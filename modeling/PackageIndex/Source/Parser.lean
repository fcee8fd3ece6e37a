import PackageIndex.Source.Token
import PackageIndex.Source.Syntax
import PackageIndex.Unicode.Normal

/-!
# Parsers of token lists

A parser takes tokens from the front of a list or fails.  The rules of the grammar choose by the
next token wherever they can, so that a failure seldom makes anything be read twice.
-/

namespace PackageIndex.Source

/-- The tokens that are left, and their number, which bounds every repetition. -/
structure Input where
  tokens : List Token
  count : Nat
deriving Repr

/-- The input with the given tokens. -/
def Input.ofTokens (ts : List Token) : Input := ⟨ts, ts.length⟩

/-- Takes tokens from the front of a list and gives a result, or fails. -/
abbrev Parser := StateT Input Option

namespace Parser

/-- The token `offset` places ahead, which is not taken. -/
def ahead? (offset : Nat) : Parser (Option Token) := return (← get).tokens[offset]?

/-- A bound on how often tokens can still be taken. -/
def limit : Parser Nat := return (← get).count + 1

/-- No token is left. -/
def isFinished : Parser Bool := return (← get).tokens.isEmpty

/-- The token `offset` places ahead is the given one. -/
def isAhead (offset : Nat) (t : Token) : Parser Bool := return (← ahead? offset) == some t

/-- Takes any token. -/
def token : Parser Token := do
  match ← get with
  | ⟨[], _⟩ => failure
  | ⟨t :: rest, count⟩ =>
    set (Input.mk rest (count - 1))
    return t

/-- Takes the next token if it is the given one, and tells whether it was. -/
def tryToken (t : Token) : Parser Bool := do
  if ← isAhead 0 t then
    let _ ← token
    return true
  else return false

/-- Takes the given token. -/
def expect (t : Token) : Parser Unit := do
  if ← tryToken t then pure () else failure

/-- Takes the given operator or delimiter. -/
def mark (spelling : String) : Parser Unit := expect (.mark spelling)

/-- Takes the given word. -/
def word (spelling : String) : Parser Unit := expect (.word spelling)

/-- Takes the next token if it is the given operator or delimiter. -/
def tryMark (spelling : String) : Parser Bool := tryToken (.mark spelling)

/-- Takes the next token if it is the given word. -/
def tryWord (spelling : String) : Parser Bool := tryToken (.word spelling)

/-- Takes the next token if it is one of the given operators and delimiters. -/
def tryMarkIn (spellings : List String) : Parser Bool := do
  match ← ahead? 0 with
  | some (.mark m) => if m ∈ spellings then tryMark m else return false
  | _ => return false

/-- Takes the next token if it is one of the given words. -/
def tryWordIn (spellings : List String) : Parser Bool := do
  match ← ahead? 0 with
  | some (.word w) => if w ∈ spellings then tryWord w else return false
  | _ => return false

/-- The next token is the given operator or delimiter. -/
def isMark (spelling : String) : Parser Bool := isAhead 0 (.mark spelling)

/-- The next token is the given word. -/
def isWord (spelling : String) : Parser Bool := isAhead 0 (.word spelling)

/-- Takes a name, in its normal form. -/
def name : Parser String := do
  match ← token with
  | .word spelling => if spelling ∈ keywords then failure else return Unicode.normalForm spelling
  | _ => failure

/-- The token `offset` places ahead can be a name. -/
def isName (offset : Nat) : Parser Bool := do
  match ← ahead? offset with
  | some (.word spelling) => return spelling ∉ keywords
  | _ => return false

/-- Fails unless the condition holds. -/
def ensure (condition : Bool) : Parser Unit := if condition then pure () else failure

/-- Runs a parser until it gives nothing, at most `limit` times. -/
def collectUpTo {α : Type} (p : Parser (Option α)) : Nat → Parser (List α)
  | 0 => return []
  | limit + 1 => do
    match ← p with
    | none => return []
    | some a => return a :: (← collectUpTo p limit)

/-- Runs a parser until it gives nothing.  It has to take a token each time, so that the number of
tokens bounds the repetitions. -/
def collect {α : Type} (p : Parser (Option α)) : Parser (List α) := do
  collectUpTo p (← limit)

/-- Runs a parser as long as another one, which is run before it, says so. -/
def collectWhile {α : Type} (goesOn : Parser Bool) (p : Parser α) : Parser (List α) :=
  collect do
    if ← goesOn then return some (← p) else return none

/-- Runs a parser if it succeeds, and otherwise takes nothing. -/
def attempt {α : Type} (p : Parser α) : Parser (Option α) := (some <$> p) <|> pure none

/-- As many items as there are behind separators, the first one already taken. -/
def moreItems {α : Type} (separator : Parser Unit) (item : Parser α) : Parser (List α) :=
  collect (attempt (do separator; item))

/-- One item or more, with separators between them. -/
def separated {α : Type} (separator : Parser Unit) (item : Parser α) : Parser (List α) := do
  let first ← item
  return first :: (← moreItems separator item)

/-- One item or more between commas; the flag tells that a comma follows the last one. -/
def commaList {α : Type} (item : Parser α) : Parser (List α × Bool) := do
  let items ← separated (mark ",") item
  return (items, ← tryMark ",")

/-- The result of a parser on a list of tokens that it takes to the end. -/
def parseAll {α : Type} (p : Parser α) (ts : List Token) : Option α := do
  let (a, rest) ← p.run (Input.ofTokens ts)
  guard rest.tokens.isEmpty
  some a

end Parser

end PackageIndex.Source
