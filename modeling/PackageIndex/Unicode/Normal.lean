import PackageIndex.Unicode.Composition

/-!
# Compatibility normal form

The normalization form `NFKC`, for texts made of identifier characters: every character is replaced
by its full compatibility decomposition, runs of combining marks are put into the order of their
classes, and pairs that have a primary composite are put together again.
-/

namespace PackageIndex.Unicode

/-! ### Hangul syllables

A precomposed syllable is a leading consonant, a vowel and an optional trailing consonant; all
four blocks of code points are laid out so that both directions are arithmetic. -/

/-- The number of syllables that begin with a given leading consonant. -/
def syllablesPerLead : Nat := 21 * 28

/-- The parts of a precomposed syllable. -/
def syllableParts? (n : Nat) : Option (List Nat) :=
  if 0xac00 ≤ n ∧ n < 0xac00 + 19 * syllablesPerLead then
    let i := n - 0xac00
    let lead := 0x1100 + i / syllablesPerLead
    let vowel := 0x1161 + i % syllablesPerLead / 28
    let trail := i % 28
    some (if trail = 0 then [lead, vowel] else [lead, vowel, 0x11a7 + trail])
  else none

/-- The syllable of a leading consonant and a vowel, or of an open syllable and a trailing
consonant. -/
def joinSyllable? (a b : Nat) : Option Nat :=
  if 0x1100 ≤ a ∧ a < 0x1100 + 19 ∧ 0x1161 ≤ b ∧ b < 0x1161 + 21 then
    some (0xac00 + ((a - 0x1100) * 21 + (b - 0x1161)) * 28)
  else if 0xac00 ≤ a ∧ a < 0xac00 + 19 * syllablesPerLead ∧ (a - 0xac00) % 28 = 0 ∧
      0x11a7 < b ∧ b < 0x11a7 + 28 then
    some (a + (b - 0x11a7))
  else none

/-! ### The three steps -/

/-- The full compatibility decomposition of one character. -/
def decompose (n : Nat) : List Nat :=
  ((syllableParts? n).orElse fun _ => tableDecomposition? n).getD [n]

/-- The primary composite of a pair of characters. -/
def compose? (a b : Nat) : Option Nat :=
  (joinSyllable? a b).orElse fun _ => tableComposition? a b

/-- Puts a character behind a text given in reverse, in front of the marks of a higher class. -/
def insertMark (c cls : Nat) : List Nat → List Nat
  | [] => [c]
  | d :: before =>
    if 0 < cls ∧ cls < combiningClass d then d :: insertMark c cls before else c :: d :: before

/-- The text with each run of combining marks in the order of their classes; marks of one class
keep their order. -/
def orderMarks (text : List Nat) : List Nat :=
  (text.foldl (fun done c => insertMark c (combiningClass c) done) []).reverse

/-- A text being composed: what is finished, in reverse; the last character of class zero, which
still may take marks in; and the marks behind it that stay on their own, in reverse. -/
structure Composing where
  finished : List Nat := []
  base : Option Nat := none
  marks : List Nat := []

namespace Composing

/-- All characters seen so far, in reverse. -/
def all (s : Composing) : List Nat := s.marks ++ (s.base.toList ++ s.finished)

/-- Takes one more character in.  It joins the base unless a mark of the same or a higher class
stands between them. -/
def push (s : Composing) (c : Nat) : Composing :=
  let cls := combiningClass c
  match s.base with
  | none =>
    if cls = 0 then { s with base := some c } else { s with finished := c :: s.finished }
  | some b =>
    let free := match s.marks with
      | [] => true
      | m :: _ => combiningClass m < cls
    match (if free then compose? b c else none) with
    | some composite => { s with base := some composite }
    | none =>
      if cls = 0 then { finished := s.all, base := some c, marks := [] }
      else { s with marks := c :: s.marks }

end Composing

/-- The text with all pairs composed that have a primary composite. -/
def composeAll (text : List Nat) : List Nat :=
  ((text.foldl Composing.push {}).all).reverse

/-- The compatibility normal form of an identifier; ASCII texts are their own. -/
def normalForm (identifier : String) : String :=
  if identifier.toList.all (·.toNat < 128) then identifier
  else
    let parts := (identifier.toList.map (·.toNat)).flatMap decompose
    String.ofList ((composeAll (orderMarks parts)).map Char.ofNat)

end PackageIndex.Unicode
