import PackageIndex.Unicode.Names.Lookup

/-!
# Escape sequences

The characters between the quotes of a text constant stand for themselves, except that a backslash
starts an escape sequence.  Unknown sequences stand for themselves too.  A sequence may denote a
code unit that is no character; the constant is then well formed but has no value here.
-/

namespace PackageIndex.Source

/-- The value of a digit to base sixteen. -/
def hexValue? (c : Char) : Option Nat :=
  if '0' ≤ c ∧ c ≤ '9' then some (c.toNat - 48)
  else if 'a' ≤ c ∧ c ≤ 'f' then some (c.toNat - 87)
  else if 'A' ≤ c ∧ c ≤ 'F' then some (c.toNat - 55)
  else none

/-- The value of the first `count` characters, read to base sixteen, and the rest. -/
def hexDigits (count : Nat) (cs : List Char) : Option (Nat × List Char) := do
  let digits ← (cs.take count).mapM hexValue?
  if digits.length = count then
    some (digits.foldl (fun n d => 16 * n + d) 0, cs.drop count)
  else none

/-- The character of a code point; `none` if the code point is no character. -/
def characterOf? (n : Nat) : Option Char :=
  if n < 0xd800 ∨ 0xdfff < n then some (Char.ofNat n) else none

/-- The digit is octal. -/
def isOctal (c : Char) : Bool := '0' ≤ c && c ≤ '7'

/-- The characters that a backslash and one letter stand for. -/
def simpleEscape? : Char → Option (List Char)
  | '\n' => some []
  | '\\' => some ['\\']
  | '\'' => some ['\'']
  | '"' => some ['"']
  | 'a' => some ['\x07']
  | 'b' => some ['\x08']
  | 'f' => some ['\x0c']
  | 'n' => some ['\n']
  | 'r' => some ['\r']
  | 't' => some ['\t']
  | 'v' => some ['\x0b']
  | _ => none

/-- The units that the characters behind a backslash start with, and the rest.  A sequence with too
few digits, a code point beyond the last plane, or a name without braces or of no character is an
error. -/
def escapeSequence : List Char → Option (List (Option Char) × List Char)
  | [] => some ([some '\\'], [])
  | 'x' :: rest => (hexDigits 2 rest).map fun (n, rest) => ([characterOf? n], rest)
  | 'u' :: rest => (hexDigits 4 rest).map fun (n, rest) => ([characterOf? n], rest)
  | 'U' :: rest => do
    let (n, rest) ← hexDigits 8 rest
    if n ≤ 0x10ffff then some ([characterOf? n], rest) else none
  | 'N' :: rest =>
    match rest with
    | '{' :: rest =>
      let name := rest.takeWhile (· ≠ '}')
      match rest.drop name.length with
      | _ :: rest => (Unicode.codePointOfName? name).map fun n => ([characterOf? n], rest)
      | [] => none
    | _ => none
  | c :: rest =>
    if isOctal c then
      let digits := (c :: rest).take 3 |>.takeWhile isOctal
      let value := digits.foldl (fun n d => 8 * n + (d.toNat - 48)) 0
      some ([characterOf? value], (c :: rest).drop digits.length)
    else match simpleEscape? c with
      | some cs => some (cs.map some, rest)
      | none => some ([some '\\', some c], rest)

/-- The units of the characters between quotes, in at most `fuel` steps. -/
def unescapeUpTo : Nat → List Char → Option (List (Option Char))
  | 0, _ => some []
  | _ + 1, [] => some []
  | fuel + 1, '\\' :: rest => do
    let (units, rest) ← escapeSequence rest
    (units ++ ·) <$> unescapeUpTo fuel rest
  | fuel + 1, c :: rest => (some c :: ·) <$> unescapeUpTo fuel rest

/-- The units of the characters between quotes; `none` if an escape sequence is malformed.  Each
step takes a character at least, so their number bounds the steps. -/
def unescape (cs : List Char) : Option (List (Option Char)) :=
  unescapeUpTo cs.length cs

/-- The text of a list of units, if each of them is a character. -/
def textOfUnits (units : List (Option Char)) : Option String :=
  (units.mapM id).map String.ofList

/-- The escape sequences of a byte constant are well formed: of two hexadecimal digits behind each
`x`. -/
def bytesWellFormed : List Char → Bool
  | '\\' :: 'x' :: a :: b :: rest =>
    (hexValue? a).isSome && (hexValue? b).isSome && bytesWellFormed rest
  | '\\' :: 'x' :: _ => false
  | '\\' :: _ :: rest => bytesWellFormed rest
  | _ :: rest => bytesWellFormed rest
  | [] => true

end PackageIndex.Source
