import PackageIndex.Decimal.Limit
import PackageIndex.Source.FormatText
import PackageIndex.Unicode.Identifier

/-!
# Division of a source into tokens

A source is a list of lines, each ended by a newline.  Lines are joined behind a backslash and
within brackets; blank lines and comments are skipped; the indentation of the others opens and
closes blocks.  The longest word, number or mark is taken at each place.
-/

namespace PackageIndex.Source

/-! ### Words -/

/-- The character is taken into a word: ASCII letters, digits and the low line, and everything
outside ASCII.  Whether the word is an identifier is checked as a whole. -/
def isWordChar (c : Char) : Bool := 128 ≤ c.toNat || Unicode.isAsciiNameChar c

/-- The character may begin a word. -/
def isWordStart (c : Char) : Bool := 128 ≤ c.toNat || Unicode.isAsciiNameStart c

/-! ### Numbers -/

/-- Skips a run of digits, in which single low lines may stand between two digits; `must` tells
that a digit has to come next. -/
def digitRun (isDigit : Char → Bool) (must : Bool) : List Char → Option (List Char)
  | [] => if must then none else some []
  | c :: rest =>
    if isDigit c then digitRun isDigit false rest
    else if must then none
    else if c = '_' then digitRun isDigit true rest
    else some (c :: rest)

/-- A number may end here: no word begins, unless it is one of the keywords that can stand behind
a value. -/
def endsNumber : List Char → Bool
  | 'a' :: 'n' :: 'd' :: _ => true
  | 'e' :: 'l' :: 's' :: 'e' :: _ => true
  | 'f' :: 'o' :: 'r' :: _ => true
  | 'i' :: 'f' :: _ => true
  | 'i' :: 'n' :: _ => true
  | 'i' :: 's' :: _ => true
  | 'n' :: 'o' :: 't' :: _ => true
  | 'o' :: 'r' :: _ => true
  | c :: _ => ! isWordChar c
  | [] => true

/-- The rest behind a number whose digits are complete, where an imaginary unit may follow. -/
def imaginaryPart (cs : List Char) : Option (Bool × List Char) :=
  match cs with
  | 'j' :: rest | 'J' :: rest => if endsNumber rest then some (true, rest) else none
  | _ => if endsNumber cs then some (false, cs) else none

/-- An exponent begins here: the letter `e` with a sign or a digit behind it. -/
def beginsExponent : List Char → Bool
  | e :: c :: _ => (e == 'e' || e == 'E') && (c == '+' || c == '-' || c.isDigit)
  | _ => false

/-- The rest behind a number, where an exponent may follow.  The letter `e` that begins no exponent
ends the number if it begins a keyword. -/
def exponentPart (cs : List Char) : Option (Bool × List Char) :=
  if beginsExponent cs then
    let digits := match cs.drop 1 with
      | '+' :: rest | '-' :: rest => rest
      | rest => rest
    digitRun Char.isDigit true digits >>= imaginaryPart
  else imaginaryPart cs

/-- The rest behind a number whose decimal point was just taken. -/
def fractionPart (cs : List Char) : Option (Bool × List Char) :=
  match cs with
  | c :: _ => if c.isDigit then digitRun Char.isDigit true cs >>= exponentPart else exponentPart cs
  | [] => exponentPart cs

/-- The rest behind an integer to another base, whose first digit may be set off by a low line. -/
def basedInteger (isDigit : Char → Bool) (cs : List Char) : Option (Bool × List Char) := do
  let rest ← digitRun isDigit true (match cs with | '_' :: rest => rest | _ => cs)
  if endsNumber rest then some (false, rest) else none

/-- The rest behind a number that begins with a digit, and whether it is imaginary.  An integer
does not begin with zero unless it is zero, and has at most `maxDigits` digits. -/
def number (cs : List Char) : Option (Bool × List Char) :=
  match cs with
  | '0' :: 'x' :: rest | '0' :: 'X' :: rest => basedInteger (fun c => (hexValue? c).isSome) rest
  | '0' :: 'o' :: rest | '0' :: 'O' :: rest => basedInteger isOctal rest
  | '0' :: 'b' :: rest | '0' :: 'B' :: rest => basedInteger (fun c => c == '0' || c == '1') rest
  | _ => do
    let rest ← digitRun Char.isDigit true cs
    let digits := (cs.takeWhile fun c => c.isDigit || c == '_').filter Char.isDigit
    let tooLong := digits.head? ≠ some '0' ∧ maxDigits < digits.length
    match rest with
    | '.' :: fraction => fractionPart fraction
    | c :: _ =>
      if c = 'j' ∨ c = 'J' then imaginaryPart rest
      else if c = 'e' ∨ c = 'E' then
        if tooLong ∧ ¬ beginsExponent rest then none else exponentPart rest
      else if tooLong ∨ (digits.head? = some '0' ∧ digits.any (· ≠ '0')) then none
      else if endsNumber rest then some (false, rest) else none
    | [] => some (false, [])

/-! ### Text constants -/

/-- What the letters before the quotes of a text constant say. -/
structure QuoteKind where
  raw : Bool
  bytes : Bool
  formatted : Bool

/-- The kind of text constant that a word in front of quotes announces. -/
def quoteKind? (word : List Char) : Option QuoteKind :=
  match word.map Char.toLower with
  | [] | ['u'] => some ⟨false, false, false⟩
  | ['r'] => some ⟨true, false, false⟩
  | ['b'] => some ⟨false, true, false⟩
  | ['f'] => some ⟨false, false, true⟩
  | ['b', 'r'] | ['r', 'b'] => some ⟨true, true, false⟩
  | ['f', 'r'] | ['r', 'f'] => some ⟨true, false, true⟩
  | _ => none

/-- The characters up to the closing quote or, if `triple`, up to three of them, and the rest.
`escaped` tells that a backslash came just before. -/
def quoted (mark : Char) (triple escaped : Bool) (done : List Char) :
    List Char → Option (List Char × List Char)
  | [] => none
  | c :: rest =>
    if escaped then quoted mark triple false (c :: done) rest
    else if c = '\\' then quoted mark triple true (c :: done) rest
    else if c = mark ∧ (triple → rest.take 2 = [c, c]) then
      some (done.reverse, if triple then rest.drop 2 else rest)
    else if c = '\n' ∧ ¬ triple then none
    else quoted mark triple false (c :: done) rest

/-- The token of a text constant with the given characters between its quotes. -/
def quotedToken (kind : QuoteKind) (body : List Char) : Option Token :=
  if kind.bytes then
    if body.all (·.toNat < 128) && (kind.raw || bytesWellFormed body) then some .bytes else none
  else if kind.formatted then (FormatText.fields kind.raw body).map .formatted
  else if kind.raw then some (.text (some (String.ofList body)))
  else (unescape body).map fun units => .text (textOfUnits units)

/-- The token of a text constant and the rest, from its first quote on. -/
def quotedConstant (kind : QuoteKind) (cs : List Char) : Option (Token × List Char) := do
  let (body, rest) ← match cs with
    | a :: b :: c :: rest =>
      if a = b ∧ b = c then quoted a true false [] rest
      else quoted a false false [] (b :: c :: rest)
    | a :: rest => quoted a false false [] rest
    | [] => none
  let token ← quotedToken kind body
  some (token, rest)

/-! ### Marks -/

/-- The operators and delimiters of three, two and one characters, longer ones first. -/
def marks : List String :=
  ["**=", "//=", ">>=", "<<=", "...",
   "!=", "%=", "&=", "**", "*=", "+=", "-=", "->", "//", "/=", ":=", "<<", "<=", "==", ">=", ">>",
   "@=", "^=", "|=",
   "(", ")", "[", "]", "\x7b", "\x7d", ":", ",", ";", "+", "-", "*", "/", "|", "&", "<", ">",
   "=", ".", "%", "~", "^", "@"]

/-- The longest mark that a text begins with. -/
def mark? (cs : List Char) : Option String :=
  marks.find? fun m => m.toList.isPrefixOf cs

/-! ### Lines and blocks -/

/-- The width of an indentation, with tabs up to multiples of eight, and with tabs counted as one;
two lines are compared only if both widths agree on the order. -/
structure Columns where
  wide : Nat
  narrow : Nat
deriving DecidableEq, Repr

/-- The greatest number of blocks inside each other. -/
def maxIndents : Nat := 99

/-- The indentation of a line and the rest of the line.  A form feed starts anew.  Behind a joined
line the indentation of the first part counts, unless it is zero. -/
def indentation (width : Columns) (joined : Nat) : List Char → Option (Columns × List Char)
  | '\\' :: '\n' :: next :: rest =>
    indentation width (if joined = 0 then width.wide else joined) (next :: rest)
  | '\\' :: _ => none
  | ' ' :: rest => indentation ⟨width.wide + 1, width.narrow + 1⟩ joined rest
  | '\t' :: rest => indentation ⟨(width.wide / 8 + 1) * 8, width.narrow + 1⟩ joined rest
  | '\x0c' :: rest => indentation ⟨0, 0⟩ joined rest
  | rest => some (if joined = 0 then width else ⟨joined, joined⟩, rest)

/-- Closes blocks until one of at most the given width is left, and counts the closed ones. -/
def closeBlocks (wide : Nat) : List Columns → List Columns × Nat
  | [] => ([], 0)
  | block :: outer =>
    if wide < block.wide then
      let (left, count) := closeBlocks wide outer
      (left, count + 1)
    else (block :: outer, 0)

/-- The open blocks behind a line with the given indentation, innermost first, and the tokens that
it opens or closes blocks with. -/
def enterLine (width : Columns) (blocks : List Columns) : Option (List Columns × List Token) :=
  let current := blocks.headD ⟨0, 0⟩
  if width.wide = current.wide then
    if width.narrow = current.narrow then some (blocks, []) else none
  else if current.wide < width.wide then
    if maxIndents ≤ blocks.length ∨ width.narrow ≤ current.narrow then none
    else some (width :: blocks, [.indent])
  else
    let (left, count) := closeBlocks width.wide blocks
    if left.headD ⟨0, 0⟩ = width then some (left, List.replicate count .dedent) else none

/-! ### The scan -/

/-- A source that is partly divided: the rest, the tokens so far in reverse, the open blocks and
the open brackets, innermost first, and whether the rest begins a physical line. -/
structure Scan where
  rest : List Char
  tokens : List Token
  blocks : List Columns
  brackets : List Char
  lineStart : Bool

namespace Scan

/-- Takes a token in. -/
def push (s : Scan) (token : Token) (rest : List Char) : Scan :=
  { s with rest, tokens := token :: s.tokens }

/-- The scan at the start of a line, moved to its first token. -/
def startLine (s : Scan) : Option Scan := do
  let (width, rest) ← indentation ⟨0, 0⟩ 0 s.rest
  match rest with
  | '#' :: _ => some { s with rest := (rest.dropWhile (· ≠ '\n')).drop 1 }
  | '\n' :: rest => some { s with rest }
  | _ =>
    if s.brackets.isEmpty then
      let (blocks, opened) ← enterLine width s.blocks
      some { s with rest, blocks, tokens := opened ++ s.tokens, lineStart := false }
    else some { s with rest, lineStart := false }

/-- The scan behind a mark; brackets have to match. -/
def pushMark (s : Scan) (m : String) : Option Scan :=
  let rest := s.rest.drop m.length
  match m.toList with
  | [c] =>
    if c = '(' ∨ c = '[' ∨ c = '{' then
      if FormatText.maxBrackets ≤ s.brackets.length then none
      else some { s.push (.mark m) rest with brackets := c :: s.brackets }
    else if c = ')' ∨ c = ']' ∨ c = '}' then
      match s.brackets with
      | opening :: outer =>
        if FormatText.closing opening = c then
          some { s.push (.mark m) rest with brackets := outer }
        else none
      | [] => none
    else some (s.push (.mark m) rest)
  | _ => some (s.push (.mark m) rest)

/-- The scan behind a word, or behind the text constant that the word announces. -/
def pushWord (s : Scan) : Option Scan :=
  let word := s.rest.takeWhile isWordChar
  let rest := s.rest.drop word.length
  let beforeQuotes := rest.head? = some '"' ∨ rest.head? = some '\''
  match (if beforeQuotes then quoteKind? word else none) with
  | some kind => (quotedConstant kind rest).map fun (token, rest) => s.push token rest
  | none =>
    if Unicode.isIdentifier word then some (s.push (.word (String.ofList word)) rest) else none

/-- Moves a scan over the next token, blank or comment; a scan inside a line never sees its end,
as a newline ends each line. -/
def step (s : Scan) : Option Scan :=
  if s.lineStart then s.startLine
  else match s.rest with
    | [] => none
    | '\\' :: '\n' :: c :: rest => some { s with rest := c :: rest }
    | '.' :: d :: rest =>
      if d.isDigit then
        (fractionPart (d :: rest)).map fun (imaginary, rest) => s.push (.number imaginary) rest
      else (mark? s.rest).bind s.pushMark
    | c :: rest =>
      if c = ' ' ∨ c = '\t' ∨ c = '\x0c' then some { s with rest }
      else if c = '#' then some { s with rest := s.rest.dropWhile (· ≠ '\n') }
      else if c = '\n' then
        if s.brackets.isEmpty then some { s.push .newline rest with lineStart := true }
        else some { s with rest, lineStart := true }
      else if isWordStart c then s.pushWord
      else if c.isDigit then
        (number s.rest).map fun (imaginary, rest) => s.push (.number imaginary) rest
      else if c = '"' ∨ c = '\'' then
        (quotedConstant ⟨false, false, false⟩ s.rest).map fun (token, rest) => s.push token rest
      else (mark? s.rest).bind s.pushMark

/-- The tokens of a scan that has come to the end of the source. -/
def finish (s : Scan) : Option (List Token) :=
  if s.brackets.isEmpty then
    some ((List.replicate s.blocks.length Token.dedent ++ s.tokens).reverse)
  else none

/-- Moves a scan to the end of the source, in at most `fuel` steps. -/
def run : Nat → Scan → Option (List Token)
  | 0, _ => none
  | fuel + 1, s =>
    if s.rest.isEmpty then s.finish
    else s.step.bind (run fuel)

end Scan

/-- The tokens of a source.  A newline is added to the last line if it has none.  At most two steps
are made for each character: one that starts a line, and one that takes the character. -/
def tokens (cs : List Char) : Option (List Token) :=
  let cs := if cs.getLast? = some '\n' then cs else cs ++ ['\n']
  (Scan.mk cs [] [] [] true).run (2 * cs.length + 2)

end PackageIndex.Source
