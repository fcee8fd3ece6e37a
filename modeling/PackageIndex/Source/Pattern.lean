import PackageIndex.Source.Expression

/-!
# Patterns

The grammar of the patterns that a match statement compares its subject with.  Alternatives are
chosen in a fixed order and a choice is never taken back: the low line alone is the wildcard, even
where a dotted name or a call might follow.
-/

namespace PackageIndex.Source.Pattern

open PackageIndex.Source.Parser

/-- The grammar one level further in: a nested pattern, and the expression grammar. -/
structure Context where
  self : Parser Unit
  expression : Expression.Context

/-- The word that matches everything. -/
def wildcard : String := "_"

/-- The name is not bound here: it goes on as a dotted name, a call or a keyword. -/
def goesOn : Parser Bool := do
  return (← isMark ".") || (← isMark "(") || (← isMark "=")

/-- A name that a pattern binds. -/
def captureTarget : Parser Unit := do
  if ← isWord wildcard then failure
  let _ ← name
  if ← goesOn then failure

/-- A number with an optional sign, or the sum or difference of a real and an imaginary one. -/
def signedNumber : Parser Unit := do
  let _ ← tryMark "-"
  match ← token with
  | .number imaginary =>
    if ← tryMarkIn ["+", "-"] then
      ensure (! imaginary)
      match ← token with
      | .number true => pure ()
      | _ => failure
  | _ => failure

/-- Names with dots between them; tells how many there are. -/
def dottedName : Parser Nat := do
  let _ ← name
  return (← collectWhile (tryMark ".") name).length + 1

namespace Context

variable (g : Context)

/-- A constant, if one is next. -/
def constant? : Parser (Option Unit) := do
  match ← ahead? 0 with
  | some (.number _) => some <$> signedNumber
  | some (.mark "-") => some <$> signedNumber
  | some (.text _) | some .bytes | some (.formatted _) => do
    let _ ← g.expression.textConstant
    return some ()
  | some (.word spelling) =>
    if spelling ∈ ["None", "True", "False"] then
      let _ ← token
      return some ()
    else return none
  | _ => return none

/-- A nested pattern or a starred name; tells whether it is starred. -/
def starPattern : Parser Bool := do
  if ← tryMark "*" then
    if ← tryWord wildcard then pure () else captureTarget
    return true
  else
    g.self
    return false

/-- The rest of a pattern in parentheses: a sequence, or a group of one pattern. -/
def parenthesized : Parser Unit := do
  if ← tryMark ")" then pure ()
  else
    let starred ← g.starPattern
    if ← tryMark "," then
      let _ ← attempt (commaList g.starPattern)
      mark ")"
    else
      ensure (! starred)
      mark ")"

/-- The rest of a sequence pattern in brackets. -/
def bracketed : Parser Unit := do
  let _ ← attempt (commaList g.starPattern)
  mark "]"

/-- An entry of a mapping pattern: a constant or a dotted name, and the pattern of its value. -/
def mappingItem : Parser Unit := do
  match ← g.constant? with
  | some () => pure ()
  | none => ensure (2 ≤ (← dottedName))
  mark ":"
  g.self

/-- The name that takes the remaining entries of a mapping pattern. -/
def mappingRest : Parser Unit := do
  mark "**"
  captureTarget

/-- The rest of a mapping pattern. -/
def braced : Parser Unit := do
  if ← isMark "**" then
    mappingRest
    let _ ← tryMark ","
  else
    match ← attempt (separated (mark ",") g.mappingItem) with
    | some _ =>
      if ← tryMark "," then
        if ← isMark "**" then
          mappingRest
          let _ ← tryMark ","
    | none => pure ()
  mark "\x7d"

/-- A pattern for an attribute of a class pattern. -/
def keywordPattern : Parser Unit := do
  let _ ← name
  mark "="
  g.self

/-- The rest of a class pattern: positional patterns, then patterns for attributes. -/
def classArguments : Parser Unit := do
  if ← tryMark ")" then pure ()
  else
    let close : Parser Unit := do
      let _ ← tryMark ","
      mark ")"
    let keywords : Parser Unit := do
      let _ ← separated (mark ",") g.keywordPattern
      close
    let positional : Parser Unit := do
      let _ ← separated (mark ",") g.self
      close <|> (do mark ","; keywords)
    if (← isName 0) && (← isAhead 1 (.mark "=")) then keywords else positional

/-- A pattern without alternatives. -/
def closed : Parser Unit := do
  match ← g.constant? with
  | some () => pure ()
  | none =>
    if ← tryWord wildcard then pure ()
    else if ← tryMark "(" then g.parenthesized
    else if ← tryMark "[" then g.bracketed
    else if ← tryMark "\x7b" then g.braced
    else
      let _ ← dottedName
      if ← tryMark "(" then g.classArguments
      else if ← goesOn then failure

/-- Alternatives of a pattern, and the name that is bound to what they match. -/
def pattern : Parser Unit := do
  let _ ← separated (mark "|") g.closed
  if ← tryWord "as" then captureTarget

/-- The pattern of a case: one pattern, or a sequence without brackets. -/
def casePattern : Parser Unit := do
  let starred ← g.starPattern
  if ← tryMark "," then
    let _ ← attempt (commaList g.starPattern)
  else ensure (! starred)

end Context

/-- The grammar of patterns, nested at most `depth` deep. -/
def parse (expression : Expression.Context) : Nat → Parser Unit
  | 0 => failure
  | depth + 1 => Context.pattern ⟨parse expression depth, expression⟩

end PackageIndex.Source.Pattern
