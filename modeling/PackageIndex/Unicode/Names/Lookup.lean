import PackageIndex.Unicode.Normal
import PackageIndex.Unicode.Names.General
import PackageIndex.Unicode.Names.Symbols
import PackageIndex.Unicode.Names.Supplementary
import PackageIndex.Unicode.Names.Aliases

/-!
# Characters by name

The character of a name in Unicode 14.0, `codePointOfName?`.  Hangul syllables are named by their
letters (`hangulSyllable?`) and unified ideographs by their code points (`unifiedIdeograph?`), both
in upper case.  All other names are found in any case: `codePointIn` goes through a list of names,
in which each name is given by what it has not in common with the name before,
`codePointOfNumbered` knows the names that end in their own code points, and `codePointOfAlias` the
further names of characters that were named otherwise.
-/

namespace PackageIndex.Unicode

/-! ### Listed names -/

/-- An entry of a list of names. -/
inductive NameEntry where
  /-- The next name belongs to this code point. -/
  | start (codePoint : Nat)
  /-- A name: how many leading words it shares with the name before, and its other words. -/
  | name (shared : Nat) (words : List String)
deriving Repr

/-- The entry that a text stands for; white space in front of it is skipped. -/
def NameEntry.ofText (text : String) : NameEntry :=
  match text.toList.dropWhile Char.isWhitespace with
  | '@' :: digits => .start ((hexNumbers (String.ofList digits)).headD 0)
  | c :: rest =>
    let words := if rest.isEmpty then [] else (String.ofList rest).splitOn " "
    .name (c.toNat - '0'.toNat) words
  | [] => .name 0 []

/-- The code point of the name with the given words in a list of entries, where `before` holds the
words of the name before and `next` is the code point of the next one. -/
def codePointAmong (wanted : List String) : List NameEntry → List String → Nat → Option Nat
  | [], _, _ => none
  | .start n :: rest, before, _ => codePointAmong wanted rest before n
  | .name shared words :: rest, before, next =>
    let name := before.take shared ++ words
    if name = wanted then some next else codePointAmong wanted rest name (next + 1)

/-- The code point of the name with the given words in a list of names. -/
def codePointIn (data : String) (wanted : List String) : Option Nat :=
  codePointAmong wanted ((data.splitOn ",").map NameEntry.ofText) [] 0

/-- The code point of an alias in a list of aliases. -/
def codePointOfAlias (data : String) (wanted : List String) : Option Nat :=
  (data.splitOn ",").findSome? fun entry =>
    match (String.ofList (entry.toList.dropWhile Char.isWhitespace)).splitOn " " with
    | number :: words => if words = wanted then (hexNumbers number).head? else none
    | [] => none

/-! ### Names with numbers -/

/-- The value of a digit of a number written to base sixteen, upper case letters only. -/
def upperHexDigit? (c : Char) : Option Nat :=
  if c.isLower then none else hexDigit? c.toLower

/-- The number that upper case digits to base sixteen stand for. -/
def upperHexNumber? (digits : List Char) : Option Nat :=
  (digits.mapM upperHexDigit?).map fun values => values.foldl (fun n d => 16 * n + d) 0

/-- The text behind a given beginning. -/
def behind? (beginning : String) (cs : List Char) : Option (List Char) :=
  if beginning.toList.isPrefixOf cs then some (cs.drop beginning.length) else none

/-- The code point lies in one of the closed intervals. -/
def liesIn (intervals : List (Nat × Nat)) (n : Nat) : Bool :=
  intervals.any fun (first, last) => first ≤ n && n ≤ last

/-- The characters that are named by a common beginning and their code points, without leading
zeros: the beginnings, and the intervals of code points. -/
def numberedNames : List (String × List (Nat × Nat)) :=
  [("CJK COMPATIBILITY IDEOGRAPH-", [(0xf900, 0xfa6d), (0xfa70, 0xfad9), (0x2f800, 0x2fa1d)]),
   ("KHITAN SMALL SCRIPT CHARACTER-", [(0x18b00, 0x18cd5)]),
   ("NUSHU CHARACTER-", [(0x1b170, 0x1b2fb)])]

/-- The code point of a name that ends in it. -/
def codePointOfNumbered (cs : List Char) : Option Nat :=
  numberedNames.findSome? fun (beginning, intervals) => do
    let digits ← behind? beginning cs
    let n ← upperHexNumber? digits
    if digits.head? ≠ some '0' ∧ liesIn intervals n then some n else none

/-- The code points of the unified ideographs. -/
def unifiedIdeographs : List (Nat × Nat) :=
  [(0x3400, 0x4dbf), (0x4e00, 0x9fff), (0x20000, 0x2a6df), (0x2a700, 0x2b738), (0x2b740, 0x2b81d),
   (0x2b820, 0x2cea1), (0x2ceb0, 0x2ebe0), (0x30000, 0x3134a)]

/-- The unified ideograph with a code point of four or five digits. -/
def unifiedIdeograph? (digits : List Char) : Option Nat := do
  let n ← upperHexNumber? digits
  if (digits.length = 4 ∨ digits.length = 5) ∧ liesIn unifiedIdeographs n then some n else none

/-! ### Hangul syllables -/

/-- The names of the leading consonants of syllables, in order. -/
def leadNames : List String :=
  ["G", "GG", "N", "D", "DD", "R", "M", "B", "BB", "S", "SS", "", "J", "JJ", "C", "K", "T", "P",
   "H"]

/-- The names of the vowels of syllables, in order. -/
def vowelNames : List String :=
  ["A", "AE", "YA", "YAE", "EO", "E", "YEO", "YE", "O", "WA", "WAE", "OE", "YO", "U", "WEO", "WE",
   "WI", "YU", "EU", "YI", "I"]

/-- The names of the trailing consonants of syllables, in order, the first of them for none. -/
def trailNames : List String :=
  ["", "G", "GG", "GS", "N", "NJ", "NH", "D", "L", "LG", "LM", "LB", "LS", "LT", "LP", "LH", "M",
   "B", "BS", "S", "SS", "NG", "J", "C", "K", "T", "P", "H"]

/-- The index of the longest name that a text begins with, and the text behind it. -/
def longestName? (names : List String) (cs : List Char) : Option (Nat × List Char) := do
  let found := names.zipIdx.filter fun (name, _) => name.toList.isPrefixOf cs
  let longest := (found.map fun (name, _) => name.length).max?.getD 0
  let (name, i) ← found.find? fun (name, _) => name.length = longest
  some (i, cs.drop name.length)

/-- The syllable of the names of its letters. -/
def hangulSyllable? (cs : List Char) : Option Nat := do
  let (lead, cs) ← longestName? leadNames cs
  let (vowel, cs) ← longestName? vowelNames cs
  let (trail, cs) ← longestName? trailNames cs
  if cs.isEmpty then some (0xac00 + lead * syllablesPerLead + vowel * 28 + trail) else none

/-! ### All names -/

/-- The code point of a listed name or alias, or of one that ends in a number, in upper case. -/
def codePointOfUpper (cs : List Char) : Option Nat :=
  let words := (String.ofList cs).splitOn " "
  (codePointOfNumbered cs).orElse fun _ =>
  (codePointIn generalNameData words).orElse fun _ =>
  (codePointIn symbolNameData words).orElse fun _ =>
  (codePointIn supplementaryNameData words).orElse fun _ => codePointOfAlias aliasData words

/-- The code point that a name stands for. -/
def codePointOfName? (name : List Char) : Option Nat :=
  match behind? "HANGUL SYLLABLE " name, behind? "CJK UNIFIED IDEOGRAPH-" name with
  | some letters, _ => hangulSyllable? letters
  | none, some digits => unifiedIdeograph? digits
  | none, none => codePointOfUpper (name.map Char.toUpper)

end PackageIndex.Unicode
