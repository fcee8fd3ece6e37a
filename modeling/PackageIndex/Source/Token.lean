/-!
# Tokens

The lexical units of a source text.  A word keeps its spelling, since keywords are recognised by
the letters as written; numbers and byte texts keep no value, because nothing that is asked of a
source depends on it.
-/

namespace PackageIndex.Source

/-- A replacement field of a formatted text: the characters of its expression, and whether the
field also shows them. -/
structure Field where
  expression : List Char
  showsExpression : Bool
deriving DecidableEq, Repr

/-- A lexical unit. -/
inductive Token where
  /-- An identifier or a keyword, as written. -/
  | word (spelling : String)
  /-- A number, and whether it is imaginary. -/
  | number (imaginary : Bool)
  /-- A text constant, or `none` if it holds a code unit that is no character. -/
  | text (value : Option String)
  /-- A constant of bytes. -/
  | bytes
  /-- A formatted text with its replacement fields, those of format specifications included. -/
  | formatted (fields : List Field)
  /-- An operator or a delimiter. -/
  | mark (spelling : String)
  /-- The end of a logical line. -/
  | newline
  /-- The start of a deeper block. -/
  | indent
  /-- The end of a block. -/
  | dedent
deriving DecidableEq, Repr

/-- The words that cannot be names. -/
def keywords : List String :=
  ["False", "None", "True", "and", "as", "assert", "async", "await", "break", "class", "continue",
   "def", "del", "elif", "else", "except", "finally", "for", "from", "global", "if", "import",
   "in", "is", "lambda", "nonlocal", "not", "or", "pass", "raise", "return", "try", "while",
   "with", "yield"]

end PackageIndex.Source
