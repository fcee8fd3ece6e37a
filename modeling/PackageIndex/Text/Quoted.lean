import PackageIndex.Unicode.Printable

/-!
# Quoted texts

A text inside a message is written between quotes, such that it can be read back: the quotes are
single unless the text holds a single quote and no double one, and the quote itself, the backslash
and everything unprintable are written as escape sequences.
-/

namespace PackageIndex.Text

/-- The lowest `count` digits of a number to base sixteen. -/
def hexText (count n : Nat) : List Char :=
  let digits := Nat.toDigits 16 n
  List.replicate (count - digits.length) '0' ++ digits

/-- A character as it stands between the given quotes. -/
def escapeFor (quote c : Char) : List Char :=
  if c = quote ∨ c = '\\' then ['\\', c]
  else if c = '\n' then ['\\', 'n']
  else if c = '\r' then ['\\', 'r']
  else if c = '\t' then ['\\', 't']
  else if Unicode.isPrintable c then [c]
  else if c.toNat < 0x100 then '\\' :: 'x' :: hexText 2 c.toNat
  else if c.toNat < 0x10000 then '\\' :: 'u' :: hexText 4 c.toNat
  else '\\' :: 'U' :: hexText 8 c.toNat

/-- The quote to write a text with. -/
def quoteOf (cs : List Char) : Char :=
  if '\'' ∈ cs ∧ '"' ∉ cs then '"' else '\''

/-- A text between quotes. -/
def quoted (s : String) : String :=
  let q := quoteOf s.toList
  String.ofList (q :: s.toList.flatMap (escapeFor q) ++ [q])

end PackageIndex.Text
