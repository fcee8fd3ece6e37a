import PackageIndex.Source.Pattern

/-!
# Statements

The grammar of statements.  An assignment is first read as an expression list, and its targets are
checked on the tree, since every target is an expression too.
-/

namespace PackageIndex.Source.Statement

open PackageIndex.Source.Parser

/-- The grammar one level further in: the statements of a nested block up to its end, and the
grammars of expressions and patterns. -/
structure Context where
  block : Parser Unit
  expression : Expression.Context
  pattern : Pattern.Context

/-- The operators that change a place. -/
def augmentations : List String :=
  ["+=", "-=", "*=", "@=", "/=", "%=", "&=", "|=", "^=", "<<=", ">>=", "**=", "//="]

/-! ### Imports -/

/-- A name and an optional other name for it. -/
def aliased {α : Type} (imported : Parser α) : Parser Unit := do
  let _ ← imported
  if ← tryWord "as" then
    let _ ← name

/-- What is imported from a module. -/
def importTargets : Parser Unit := do
  if ← tryMark "*" then pure ()
  else if ← tryMark "(" then
    let _ ← commaList (aliased name)
    mark ")"
  else
    let _ ← separated (mark ",") (aliased name)

/-- The rest of an import from a module, which is named relative to the package by leading dots. -/
def importFrom : Parser Unit := do
  let dots ← collectWhile (tryMarkIn [".", "..."]) (pure ())
  if dots.isEmpty || ! (← isWord "import") then
    let _ ← Pattern.dottedName
  word "import"
  importTargets

namespace Context

variable (g : Context)

/-! ### Simple statements -/

/-- A value that is assigned: an expression list or a yield expression. -/
def value : Parser Expr := do
  if ← isWord "yield" then g.expression.yieldExpression else g.expression.starExpressions

/-- Further targets and the value of an assignment behind its first equals sign; `targets` holds
the ones so far in reverse. -/
def assignmentUpTo (targets : List Expr) : Nat → Parser Stmt
  | 0 => failure
  | limit + 1 => do
    let e ← g.value
    if ← tryMark "=" then
      ensure e.isStarTarget
      assignmentUpTo (e :: targets) limit
    else return .assignment targets.reverse e

/-- A target that an annotation can follow: one place, by itself or in parentheses.  Parentheses
around a place end the target, so that an attribute or element of them is none. -/
def annotatedTarget : Parser Unit := do
  let place : Parser Unit := do
    ensure (← g.expression.self .primary).isSingleTarget
  match ← attempt (do mark "("; place; mark ")") with
  | some () => pure ()
  | none => place

/-- An annotated target with an optional value. -/
def annotation : Parser Unit := do
  g.annotatedTarget
  mark ":"
  let _ ← g.expression.expression
  if ← tryMark "=" then
    let _ ← g.value

/-- An expression statement or an assignment. -/
def expressionStatement : Parser Stmt := do
  let start ← get
  let e ← g.value
  if ← tryMark "=" then
    ensure e.isStarTarget
    g.assignmentUpTo [e] (← limit)
  else if ← isMark ":" then
    set start
    g.annotation
    return .other
  else
    if ← tryMarkIn augmentations then
      ensure e.isSingleTarget
      let _ ← g.value
    return .other

/-- The targets of a deletion. -/
def deletion : Parser Unit := do
  let (targets, _) ← commaList (g.expression.self .primary)
  ensure (targets.all Expr.isDeletable)

/-- The rest of a statement that begins with the given word; `none` if no simple statement does
so. -/
def keywordStatement? (spelling : String) : Option (Parser Unit) :=
  match spelling with
  | "pass" | "break" | "continue" => some (pure ())
  | "return" => some do
    let _ ← attempt g.expression.starExpressions
  | "import" => some do
    let _ ← separated (mark ",") (aliased Pattern.dottedName)
  | "from" => some importFrom
  | "raise" => some do
    match ← attempt g.expression.expression with
    | some _ =>
      if ← tryWord "from" then
        let _ ← g.expression.expression
    | none => pure ()
  | "del" => some g.deletion
  | "assert" => some do
    let _ ← g.expression.expression
    if ← tryMark "," then
      let _ ← g.expression.expression
  | "global" | "nonlocal" => some do
    let _ ← separated (mark ",") name
  | _ => none

/-- A simple statement. -/
def simple : Parser Stmt := do
  let keyword? := match ← ahead? 0 with
    | some (.word spelling) => g.keywordStatement? spelling
    | _ => none
  match keyword? with
  | some rest =>
    let _ ← token
    rest
    return .other
  | none => g.expressionStatement

/-- The simple statements of a line. -/
def simpleLine : Parser (List Stmt) := do
  let statements ← separated (mark ";") g.simple
  let _ ← tryMark ";"
  expect .newline
  return statements

/-! ### Compound statements -/

/-- A block behind its colon: the rest of the line, or the indented lines below. -/
def suite : Parser Unit := do
  mark ":"
  if ← tryToken .newline then
    expect .indent
    g.block
    expect .dedent
  else
    let _ ← g.simpleLine

/-- An else block, if there is one. -/
def elseBlock : Parser Unit := do
  if ← tryWord "else" then g.suite

/-- The rest of a function definition behind its first word, and the name it defines. -/
def function : Parser Stmt := do
  let defined ← name
  mark "("
  g.expression.parameters true ")"
  mark ")"
  if ← tryMark "->" then
    let _ ← g.expression.expression
  g.suite
  return .definition defined

/-- The rest of a class definition behind its first word, and the name it defines. -/
def classDefinition : Parser Stmt := do
  let defined ← name
  if ← tryMark "(" then g.expression.arguments
  g.suite
  return .definition defined

/-- The rest of a conditional statement behind its first word. -/
def conditional : Parser Unit := do
  let _ ← g.expression.named
  g.suite
  let _ ← collectWhile (tryWord "elif") do
    let _ ← g.expression.named
    g.suite
  g.elseBlock

/-- The rest of a loop over values behind its first word. -/
def loop : Parser Unit := do
  g.expression.loopTargets
  word "in"
  let _ ← g.expression.starExpressions
  g.suite
  g.elseBlock

/-- The rest of a loop under a condition behind its first word. -/
def conditionLoop : Parser Unit := do
  let _ ← g.expression.named
  g.suite
  g.elseBlock

/-- A manager of a with statement, and the target it is bound to. -/
def withItem : Parser Unit := do
  let _ ← g.expression.expression
  if ← tryWord "as" then
    let target ← g.expression.starOr .primary (g.expression.self .primary)
    ensure target.isStarTarget

/-- The items of a with statement in parentheses of their own, with the colon still ahead. -/
def parenthesizedItems : Parser Unit := do
  mark "("
  let _ ← commaList g.withItem
  mark ")"
  if ← isMark ":" then pure () else failure

/-- The rest of a with statement behind its first word.  Parentheses around all items are taken as
such wherever that is possible. -/
def withStatement : Parser Unit := do
  match ← attempt g.parenthesizedItems with
  | some () => g.expression.require .parenthesizedItems
  | none =>
    let _ ← separated (mark ",") g.withItem
  g.suite

/-- The rest of a handler of exceptions behind its first word; tells whether it is for groups. -/
def handler : Parser Bool := do
  let forGroups ← tryMark "*"
  if forGroups then g.expression.require .groupHandler
  if forGroups || ! (← isMark ":") then
    let _ ← g.expression.expression
    if ← tryWord "as" then
      let _ ← name
  g.suite
  return forGroups

/-- The rest of a statement that handles exceptions behind its first word.  Its handlers are all for
groups or all not; without one, a final block is needed. -/
def tryStatement : Parser Unit := do
  g.suite
  let handlers ← collectWhile (tryWord "except") g.handler
  ensure (handlers.all id || ! handlers.any id)
  if handlers.isEmpty then
    word "finally"
    g.suite
  else
    g.elseBlock
    if ← tryWord "finally" then g.suite

/-- The first line of a match statement: its word, the subject and the end of the line. -/
def matchHead : Parser Unit := do
  word "match"
  let first ← g.expression.starNamed
  if ← tryMark "," then
    let _ ← attempt (commaList g.expression.starNamed)
  else
    match first with
    | .starred _ => failure
    | _ => pure ()
  mark ":"
  expect .newline

/-- The rest of a case of a match statement behind its first word. -/
def matchCase : Parser Unit := do
  g.pattern.casePattern
  if ← tryWord "if" then
    let _ ← g.expression.named
  g.suite

/-- The cases of a match statement behind its first line. -/
def cases : Parser Unit := do
  g.expression.require .matchStatement
  expect .indent
  ensure (! (← collectWhile (tryWord "case") g.matchCase).isEmpty)
  expect .dedent

/-- The rest of a decorator behind its mark. -/
def decorator : Parser Unit := do
  let _ ← g.expression.named
  expect .newline

/-- A definition behind its decorators. -/
def definition : Parser Stmt := do
  if ← tryWord "class" then g.classDefinition
  else
    let _ ← tryWord "async"
    word "def"
    g.function

/-- A statement, or the simple statements of a line. -/
def statement : Parser (List Stmt) := do
  let unnamed (p : Parser Unit) : Parser (List Stmt) := do
    p
    return [.other]
  let starts (spelling : String) : Parser Bool := do
    return (← isWord spelling) || ((← isWord "async") && (← isAhead 1 (.word spelling)))
  if ← isMark "@" then
    let _ ← collectWhile (tryMark "@") g.decorator
    return [← g.definition]
  else if (← starts "def") || (← isWord "class") then return [← g.definition]
  else if ← tryWord "if" then unnamed g.conditional
  else if ← tryWord "while" then unnamed g.conditionLoop
  else if ← tryWord "try" then unnamed g.tryStatement
  else if ← starts "for" then
    let _ ← tryWord "async"
    word "for"
    unnamed g.loop
  else if ← starts "with" then
    let _ ← tryWord "async"
    word "with"
    unnamed g.withStatement
  else
    match ← attempt g.matchHead with
    | some () => unnamed g.cases
    | none => g.simpleLine

/-- All statements up to the end of a block. -/
def statements : Parser (List Stmt) := do
  let atStatement : Parser Bool := do
    return ! ((← isFinished) || (← isAhead 0 .dedent))
  return (← collectWhile atStatement g.statement).flatten

/-- The statements of a block, one at least. -/
def nonempty : Parser Unit := do
  ensure (! (← g.statements).isEmpty)

end Context

/-- The grammars of a minor version, with expressions and patterns nested at most `depth` deep, and
blocks at most `blocks` deep. -/
def context (minor depth : Nat) : Nat → Context
  | 0 => grammar failure
  | blocks + 1 => grammar fun ts => (context minor depth blocks).nonempty ts
where
  /-- The grammars around a given grammar of blocks. -/
  grammar (block : Parser Unit) : Context :=
    let expression : Expression.Context := ⟨Expression.parse minor depth, minor⟩
    ⟨block, expression, ⟨Pattern.parse expression depth, expression⟩⟩

end PackageIndex.Source.Statement
