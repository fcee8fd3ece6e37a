import PackageIndex.Source.Token
import PackageIndex.Source.Escape

/-!
# Formatted texts

A formatted text alternates literal pieces with replacement fields in braces.  A field holds an
expression, optionally an equals sign that also shows the expression, a conversion, and a format
specification, which is again literal text with fields; fields may be nested once.  Braces of
literal text are doubled, outside format specifications only.
-/

namespace PackageIndex.Source.FormatText

/-- Where a piece of literal text ends. -/
inductive LiteralEnd where
  /-- Behind a doubled brace: more literal text follows. -/
  | doubledBrace
  /-- Before a brace. -/
  | brace
  /-- At the end of the text. -/
  | finished
deriving DecidableEq

/-- The longest piece of literal text, the way it ends, and the rest.  `named` tells that the braces
of a character name are open, and the next `copied` characters are taken as they are.  Backslashes
of a `raw` text are literal, and a brace inside a format specification (`nested`) is never
doubled. -/
def literal (raw nested : Bool) (named : Bool) (copied : Nat) (done : List Char) :
    List Char → Option (LiteralEnd × List Char × List Char)
  | [] => some (.finished, done.reverse, [])
  | c :: rest =>
    if 0 < copied then literal raw nested named (copied - 1) (c :: done) rest
    else if named then literal raw nested (c ≠ '}') 0 (c :: done) rest
    else if c = '\\' ∧ ¬ raw then
      if rest.head? = some 'N' then
        if rest.take 2 = ['N', '{'] then literal raw nested true 2 (c :: done) rest else none
      else if rest.head? = some '{' ∨ rest.head? = some '}' then
        literal raw nested false 0 (c :: done) rest
      else literal raw nested false 1 (c :: done) rest
    else if c = '{' ∨ c = '}' then
      if nested then some (.brace, done.reverse, c :: rest)
      else if rest.head? = some c then some (.doubledBrace, (c :: done).reverse, rest.drop 1)
      else if c = '{' then some (.brace, done.reverse, c :: rest) else none
    else literal raw nested false 0 (c :: done) rest

/-- The quotes that an expression is inside of. -/
structure Quotes where
  mark : Char
  triple : Bool

/-- The bracket that closes an opening one. -/
def closing : Char → Char
  | '(' => ')'
  | '[' => ']'
  | _ => '}'

/-- The greatest number of open brackets. -/
def maxBrackets : Nat := 200

/-- The characters of a field up to the end of its expression, and the rest, which starts with the
mark that ends it.  The expression ends at a `!`, `:`, `}` or `=` outside quotes and brackets that
is not part of a comparison; it holds no backslash, and no number sign outside quotes.  The next
`copied` characters are taken as they are. -/
def expression (quotes : Option Quotes) (brackets : List Char) (copied : Nat) (done : List Char) :
    List Char → Option (List Char × List Char)
  | [] => none
  | c :: rest =>
    if 0 < copied then expression quotes brackets (copied - 1) (c :: done) rest
    else if c = '\\' then none
    else match quotes with
    | some q =>
      if c ≠ q.mark then expression quotes brackets 0 (c :: done) rest
      else if ¬ q.triple then expression none brackets 0 (c :: done) rest
      else if rest.take 2 = [c, c] then expression none brackets 2 (c :: done) rest
      else expression quotes brackets 0 (c :: done) rest
    | none =>
      if c = '\'' ∨ c = '"' then
        if rest.take 2 = [c, c] then expression (some ⟨c, true⟩) brackets 2 (c :: done) rest
        else expression (some ⟨c, false⟩) brackets 0 (c :: done) rest
      else if c = '(' ∨ c = '[' ∨ c = '{' then
        if maxBrackets ≤ brackets.length then none
        else expression none (c :: brackets) 0 (c :: done) rest
      else if c = '#' then none
      else if brackets.isEmpty ∧ c ∈ ['!', '=', '<', '>'] ∧ rest.head? = some '=' then
        expression none brackets 1 (c :: done) rest
      else if brackets.isEmpty ∧ c ∈ ['!', ':', '}', '='] then some (done.reverse, c :: rest)
      else if c = ')' ∨ c = ']' ∨ c = '}' then
        match brackets with
        | opening :: outer =>
          if closing opening = c then expression none outer 0 (c :: done) rest else none
        | [] => none
      else expression none brackets 0 (c :: done) rest

/-- The character is blank within an expression. -/
def isBlankInExpression (c : Char) : Bool := c ∈ [' ', '\t', '\n', '\x0c']

/-- The character is ASCII white space. -/
def isAsciiBlank (c : Char) : Bool := c ∈ [' ', '\t', '\n', '\r', '\x0b', '\x0c']

/-- The conversion of a field, if it has one, and the rest. -/
def conversion : List Char → Option (List Char)
  | '!' :: c :: rest => if c ∈ ['s', 'r', 'a'] then some rest else none
  | ['!'] => none
  | rest => some rest

/-- The fields of a formatted text, those of its format specifications included, and the rest: at
level zero nothing, deeper the text from the closing brace on.  Fields stand at levels zero and
one.  Every call takes a character, so that their number is enough `fuel`. -/
def fieldsUpTo (raw : Bool) : Nat → Nat → List Char → Option (List Field × List Char)
  | 0, _, _ => none
  | fuel + 1, level, cs => do
    let (ending, piece, rest) ← literal raw (level ≠ 0) false 0 [] cs
    guard (raw || (unescape piece).isSome)
    match ending, rest with
    | .doubledBrace, rest => fieldsUpTo raw fuel level rest
    | .brace, '{' :: rest =>
      if 2 ≤ level then none
      let (source, rest) ← expression none [] 0 [] rest
      if source.all isBlankInExpression then none
      let (shows, rest) := match rest with
        | '=' :: rest => (true, rest.dropWhile isAsciiBlank)
        | rest => (false, rest)
      let rest ← conversion rest
      let (inner, rest) ← match rest with
        | ':' :: rest => fieldsUpTo raw fuel (level + 1) rest
        | rest => some ([], rest)
      match rest with
      | '}' :: rest =>
        let (later, rest) ← fieldsUpTo raw fuel level rest
        some (⟨source, shows⟩ :: (inner ++ later), rest)
      | _ => none
    | _, rest => if level = 0 ∧ ¬ rest.isEmpty then none else some ([], rest)

/-- The replacement fields of a formatted text, given by the characters between its quotes. -/
def fields (raw : Bool) (cs : List Char) : Option (List Field) :=
  (fieldsUpTo raw (cs.length + 1) 0 cs).map (·.1)

end PackageIndex.Source.FormatText
