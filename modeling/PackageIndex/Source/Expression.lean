import PackageIndex.Source.Parser
import PackageIndex.Source.Lexer
import PackageIndex.Source.Feature

/-!
# Expressions

The grammar of expressions.  Operators that only differ in how tightly they bind are read as one
flat sequence, because the tree keeps nothing of them: an operand sequence (`sum`) is made of
primaries, a comparison of sums, a `disjunction` of comparisons.  Rules that nest get the whole
grammar as an argument, `self`, and use it only behind a token that they have taken, so that the
number of tokens bounds the depth.
-/

namespace PackageIndex.Source

/-- The rules of the expression grammar that other rules nest in. -/
inductive Rule where
  | expression
  | disjunction
  | sum
  | primary

namespace Expression

open PackageIndex.Source.Parser

/-- What the rules of the grammar are given: the rules they nest, and the minor version of the
language. -/
structure Context where
  self : Rule → Parser Expr
  minor : Nat

namespace Context

variable (g : Context)

/-- The version knows the feature. -/
def knows (f : Feature) : Bool := f.since ≤ g.minor

/-- Fails unless the version knows the feature. -/
def require (f : Feature) : Parser Unit := ensure (g.knows f)

/-- A nested expression. -/
def expression : Parser Expr := g.self .expression

/-! ### Lists of expressions -/

/-- An assignment expression follows. -/
def isAssignmentExpression : Parser Bool := do
  return (← isName 0) && (← isAhead 1 (.mark ":="))

/-- An expression or an assignment expression. -/
def named : Parser Expr := do
  if ← isAssignmentExpression then
    let _ ← name
    mark ":="
    g.require .assignmentExpression
    let _ ← g.expression
    return .other
  else g.expression

/-- A starred operand, or what `item` reads; `star` reads the operand. -/
def starOr (star : Rule) (item : Parser Expr) : Parser Expr := do
  if ← tryMark "*" then return .starred (← g.self star) else item

/-- A starred operand, an expression or an assignment expression. -/
def starNamed : Parser Expr := g.starOr .sum g.named

/-- A starred operand or an expression. -/
def starExpression : Parser Expr := g.starOr .sum g.expression

/-- The expression of a list of items: a tuple unless it is one item without a comma. -/
def tupleOf : List Expr × Bool → Expr
  | ([e], false) => e
  | (es, _) => .tuple es

/-- Expressions between commas, as a tuple. -/
def starExpressions : Parser Expr := tupleOf <$> commaList g.starExpression

/-- A yield expression, its first word being next. -/
def yieldExpression : Parser Expr := do
  word "yield"
  if ← tryWord "from" then
    let _ ← g.expression
    return .other
  else
    let _ ← attempt g.starExpressions
    return .other

/-! ### Comprehensions -/

/-- Targets of a loop, one or more between commas. -/
def loopTargets : Parser Unit := do
  let (targets, _) ← commaList (g.starOr .primary (g.self .primary))
  ensure (targets.all Expr.isStarTarget)

/-- A comprehension clause follows. -/
def isClause : Parser Bool := do
  return (← isWord "for") || ((← isWord "async") && (← isAhead 1 (.word "for")))

/-- A clause of a comprehension, if there is one. -/
def clause? : Parser (Option Unit) := do
  if ← isClause then
    let _ ← tryWord "async"
    word "for"
    g.loopTargets
    word "in"
    let _ ← g.self .disjunction
    let _ ← collectWhile (tryWord "if") (g.self .disjunction)
    return some ()
  else return none

/-- The clauses of a comprehension, one at least. -/
def clauses : Parser Unit := do
  ensure (! (← collect g.clause?).isEmpty)

/-! ### Parameters and arguments -/

/-- How far a list of parameters has come. -/
inductive ParameterStage where
  /-- Before any star; a default was seen, and the slash can still come. -/
  | positional (hasDefault slashAllowed isFirst : Bool)
  /-- Behind a star; a bare one has to be followed by a name. -/
  | keyword (needsName : Bool)
  /-- Behind the parameter for all other keywords. -/
  | finished

/-- The annotation of a parameter, if `annotated` ones are read; of starred ones it may be starred
itself. -/
def annotation (annotated starred : Bool) : Parser Unit := do
  if annotated then
    if ← tryMark ":" then
      let _ ← if starred then g.starExpression else g.expression

/-- One parameter, slash or star, and the stage behind it. -/
def parameter (annotated : Bool) (stage : ParameterStage) : Parser ParameterStage := do
  match stage with
  | .finished => failure
  | .positional hasDefault slashAllowed isFirst =>
    if ← tryMark "/" then
      ensure (slashAllowed && ! isFirst)
      g.require .positionalOnly
      return .positional hasDefault false false
    else if ← tryMark "**" then namedOnly
    else if ← tryMark "*" then
      if ← isName 0 then
        let _ ← name
        g.annotation annotated true
        return .keyword false
      else return .keyword true
    else
      let _ ← name
      g.annotation annotated false
      if ← tryMark "=" then
        let _ ← g.expression
        return .positional true slashAllowed false
      else
        ensure (! hasDefault)
        return .positional false slashAllowed false
  | .keyword needsName =>
    if ← tryMark "**" then
      ensure (! needsName)
      namedOnly
    else
      let _ ← name
      g.annotation annotated false
      if ← tryMark "=" then
        let _ ← g.expression
      return .keyword false
where
  /-- The parameter for all other keywords. -/
  namedOnly : Parser ParameterStage := do
    let _ ← name
    g.annotation annotated false
    return .finished

/-- The parameters up to the closing mark, in at most `limit` steps. -/
def parametersUpTo (annotated : Bool) (close : String) : Nat → ParameterStage → Parser Unit
  | 0, _ => failure
  | limit + 1, stage => do
    let stage ← g.parameter annotated stage
    let comma ← tryMark ","
    let complete := match stage with
      | .keyword needsName => ! needsName
      | _ => true
    if ← isMark close then ensure complete
    else
      ensure comma
      parametersUpTo annotated close limit stage

/-- The parameters of a function, up to the closing mark, which is left. -/
def parameters (annotated : Bool) (close : String) : Parser Unit := do
  if ← isMark close then pure ()
  else g.parametersUpTo annotated close (← limit) (.positional false true true)

/-- How far a list of arguments has come: positional ones are allowed, starred ones are, or only
keywords are. -/
inductive ArgumentStage where
  | positional
  | keyword
  | doubleStar

/-- One argument, and the stage behind it.  `expr` reads the expression of a positional one. -/
def argument (stage : ArgumentStage) : Parser ArgumentStage := do
  if ← tryMark "**" then
    let _ ← g.expression
    return .doubleStar
  else if (← isName 0) && (← isAhead 1 (.mark "=")) then
    let _ ← name
    mark "="
    let _ ← g.expression
    match stage with
    | .positional => return .keyword
    | stage => return stage
  else if ← tryMark "*" then
    let _ ← g.expression
    match stage with
    | .doubleStar => failure
    | stage => return stage
  else
    match stage with
    | .positional =>
      let _ ← g.named
      return .positional
    | _ => failure

/-- The arguments up to the closing parenthesis, which is left, in at most `limit` steps. -/
def argumentsUpTo : Nat → ArgumentStage → Parser Unit
  | 0, _ => failure
  | limit + 1, stage => do
    let stage ← g.argument stage
    if ← isMark ")" then pure ()
    else
      mark ","
      if ← isMark ")" then pure () else argumentsUpTo limit stage

/-- The arguments of a class definition behind its opening parenthesis, the closing one
included. -/
def arguments : Parser Unit := do
  if ← tryMark ")" then pure ()
  else
    g.argumentsUpTo (← limit) .positional
    mark ")"

/-- The arguments of a call behind its opening parenthesis, the closing one included; a generator
expression can be the only argument. -/
def callArguments : Parser Unit := do
  if ← tryMark ")" then pure ()
  else if (← isMark "*") || (← isMark "**") ||
      ((← isName 0) && (← isAhead 1 (.mark "="))) then g.arguments
  else
    let _ ← g.named
    if ← isClause then
      g.clauses
      mark ")"
    else if ← tryMark ")" then pure ()
    else
      mark ","
      g.arguments

/-! ### Subscripts -/

/-- The rest of a slice whose first colon is next. -/
def sliceTail : Parser Unit := do
  mark ":"
  let _ ← attempt g.expression
  if ← tryMark ":" then
    let _ ← attempt g.expression

/-- A slice, a starred expression, an expression or an assignment expression. -/
def subscript : Parser Unit := do
  if ← tryMark "*" then
    let _ ← g.expression
  else if ← isMark ":" then g.sliceTail
  else
    let named ← isAssignmentExpression
    let _ ← g.named
    if ! named && (← isMark ":") then g.sliceTail

/-- The subscripts behind an opening bracket, the closing one included. -/
def subscripts : Parser Unit := do
  let _ ← commaList g.subscript
  mark "]"

/-! ### Atoms -/

/-- The rest of a parenthesized expression: a tuple, a generator expression or a group. -/
def parenthesized : Parser Expr := do
  if ← tryMark ")" then return .tuple []
  else if ← isWord "yield" then
    let e ← g.yieldExpression
    mark ")"
    return e
  else
    let first ← g.starNamed
    let starred := match first with
      | .starred _ => true
      | _ => false
    if ! starred && (← isClause) then
      g.clauses
      mark ")"
      return .other
    else if ← tryMark "," then
      let rest ← attempt (commaList g.starNamed)
      mark ")"
      return .tuple (first :: (rest.map (·.1)).getD [])
    else
      ensure (! starred)
      mark ")"
      return first

/-- The rest of a list display or comprehension. -/
def bracketed : Parser Expr := do
  if ← tryMark "]" then return .list []
  else
    let first ← g.starNamed
    let starred := match first with
      | .starred _ => true
      | _ => false
    if ! starred && (← isClause) then
      g.clauses
      mark "]"
      return .other
    else
      let rest ← if ← tryMark "," then attempt (commaList g.starNamed) else pure none
      mark "]"
      return .list (first :: (rest.map (·.1)).getD [])

/-- An entry of a dictionary display. -/
def dictionaryItem : Parser Unit := do
  if ← tryMark "**" then
    let _ ← g.self .sum
  else
    let _ ← g.expression
    mark ":"
    let _ ← g.expression

/-- More entries of a dictionary display behind the first one, and the closing brace. -/
def dictionaryRest : Parser Unit := do
  if ← tryMark "," then
    let _ ← attempt (commaList g.dictionaryItem)
  mark "\x7d"

/-- The rest of a display or comprehension of a set or a dictionary. -/
def braced : Parser Unit := do
  if ← tryMark "\x7d" then pure ()
  else if ← isMark "**" then
    g.dictionaryItem
    g.dictionaryRest
  else
    let plain := ! ((← isMark "*") || (← isAssignmentExpression))
    let starred ← isMark "*"
    let _ ← g.starNamed
    if plain && (← isMark ":") then
      mark ":"
      let _ ← g.expression
      if ← isClause then
        g.clauses
        mark "\x7d"
      else g.dictionaryRest
    else if ! starred && (← isClause) then
      g.clauses
      mark "\x7d"
    else
      if ← tryMark "," then
        let _ ← attempt (commaList g.starNamed)
      mark "\x7d"

/-- A replacement field of a formatted text holds an expression list of its own source, which is
read within parentheses so that it may go over lines. -/
def field (f : Field) : Option Unit := do
  guard (! f.showsExpression || g.knows .shownField)
  let ts ← tokens ('(' :: f.expression ++ [')'])
  let _ ← parseAll (do let _ ← g.expression; expect .newline) ts

/-- A text constant of one token or more: adjacent ones are joined, which bytes and texts cannot
be with each other. -/
def textConstant : Parser Expr := do
  let parts ← collect part?
  let ofBytes := parts.map (· == .bytes)
  ensure (ofBytes.all id || ! ofBytes.any id)
  ensure (parts.all fun
    | .formatted fields => fields.all fun f => (g.field f).isSome
    | _ => true)
  let value := parts.mapM fun
    | .text value => value
    | _ => none
  return match value with
    | some texts => .text (String.join texts)
    | none => .other
where
  /-- The next token, if it is part of a text constant. -/
  part? : Parser (Option Token) := do
    match ← ahead? 0 with
    | some (.text _) | some .bytes | some (.formatted _) => return some (← token)
    | _ => return none

/-- An atom: a name, a constant, or anything in brackets. -/
def atom : Parser Expr := do
  match ← ahead? 0 with
  | some (.mark m) =>
    let _ ← token
    if m = "(" then g.parenthesized
    else if m = "[" then g.bracketed
    else if m = "\x7b" then
      g.braced
      return .other
    else if m = "..." then return .other
    else failure
  | some (.number _) =>
    let _ ← token
    return .other
  | some (.text _) | some .bytes | some (.formatted _) => g.textConstant
  | some (.word spelling) =>
    if spelling ∈ ["True", "False", "None"] then
      let _ ← token
      return .other
    else return .name (← name)
  | _ => failure

/-! ### Operators -/

/-- An attribute, call or subscript behind a primary, if there is one. -/
def trailer? : Parser (Option Expr) := do
  if ← tryMark "." then
    let _ ← name
    return some .place
  else if ← tryMark "(" then
    g.callArguments
    return some .other
  else if ← tryMark "[" then
    g.subscripts
    return some .place
  else return none

/-- An atom with its attributes, calls and subscripts. -/
def primary : Parser Expr := do
  let first ← g.atom
  return ((← collect g.trailer?).getLast?).getD first

/-- The operators between operands, those of comparisons and of logic apart. -/
def binaryOperators : List String :=
  ["|", "^", "&", "<<", ">>", "+", "-", "*", "/", "//", "%", "@", "**"]

/-- The operators in front of an operand. -/
def signs : List String := ["+", "-", "~"]

/-- An operand with its signs. -/
def operand : Parser Expr := do
  let found ← collectWhile (tryMarkIn signs) (pure ())
  let awaited ← tryWord "await"
  let e ← g.primary
  return if found.isEmpty && ! awaited then e else .other

/-- Operands with the operators between them. -/
def sum : Parser Expr := do
  let first ← g.operand
  let more ← collectWhile (tryMarkIn binaryOperators) g.operand
  return if more.isEmpty then first else .other

/-- The comparison operators that are no words. -/
def comparisonMarks : List String := ["==", "!=", "<=", "<", ">=", ">"]

/-- Takes a comparison operator if it is next. -/
def tryComparison : Parser Bool := do
  if ← tryMarkIn comparisonMarks then return true
  else if ← tryWord "in" then return true
  else if ← tryWord "is" then
    let _ ← tryWord "not"
    return true
  else if (← isWord "not") && (← isAhead 1 (.word "in")) then
    word "not"
    word "in"
    return true
  else return false

/-- Sums with comparison operators between them, behind any number of negations. -/
def comparison : Parser Expr := do
  let negations ← collectWhile (tryWord "not") (pure ())
  let first ← g.sum
  let more ← collectWhile tryComparison g.sum
  return if negations.isEmpty && more.isEmpty then first else .other

/-- Comparisons with logical operators between them. -/
def disjunction : Parser Expr := do
  let first ← g.comparison
  let more ← collectWhile (tryWordIn ["or", "and"]) g.comparison
  return if more.isEmpty then first else .other

/-- A function expression behind its first word. -/
def lambda : Parser Expr := do
  g.parameters false ":"
  mark ":"
  let _ ← g.expression
  return .other

/-- An expression: a function expression, a disjunction, or a choice between two. -/
def fullExpression : Parser Expr := do
  if ← tryWord "lambda" then g.lambda
  else
    let first ← g.disjunction
    if ← tryWord "if" then
      let _ ← g.self .disjunction
      word "else"
      let _ ← g.expression
      return .other
    else return first

/-- One level of the grammar. -/
def rule : Rule → Parser Expr
  | .expression => g.fullExpression
  | .disjunction => g.disjunction
  | .sum => g.sum
  | .primary => g.primary

end Context

/-- The grammar of expressions of a minor version, nested at most `depth` deep. -/
def parse (minor : Nat) : Nat → Rule → Parser Expr
  | 0, _ => failure
  | depth + 1, r => Context.rule ⟨parse minor depth, minor⟩ r

end Expression

end PackageIndex.Source
