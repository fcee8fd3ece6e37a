import PackageIndex.Decimal.Limit
import PackageIndex.Unicode.Blank
import PackageIndex.Unicode.Digit

/-!
# Versions of the source language

A version is a major and a minor number.  Only one major number is in use, so that a version is
known by its minor one.  A version text is two numbers with a point between them, in the decimal
digits of any script, and white space around them is ignored.
-/

namespace PackageIndex

/-- A version of the source language. -/
structure Version where
  minor : Nat
deriving DecidableEq, Repr

namespace Version

/-- The major number of every version. -/
def major : Nat := 3

/-- The least minor number that a version text may name. -/
def leastMinor : Nat := 7

/-- Why a text names no version. -/
inductive TextFault where
  /-- It has another form, or names a version that is not in use. -/
  | invalid
  /-- One of its numbers has that many digits, which are too many to be read. -/
  | tooManyDigits (count : Nat)
deriving DecidableEq, Repr

/-- The two runs of digits of a version text. -/
def splitText (cs : List Char) : Option (List Char × List Char) :=
  let major := cs.takeWhile Unicode.isDigit
  match cs.dropWhile Unicode.isDigit with
  | '.' :: minor =>
    if ! major.isEmpty && ! minor.isEmpty && minor.all Unicode.isDigit then some (major, minor)
    else none
  | _ => none

/-- The version that a text names. -/
def ofText (text : String) : Except TextFault Version :=
  match splitText (Unicode.trim text.toList) with
  | none => .error .invalid
  | some (majorDigits, minorDigits) =>
    if maxDigits < majorDigits.length then .error (.tooManyDigits majorDigits.length)
    else if maxDigits < minorDigits.length then .error (.tooManyDigits minorDigits.length)
    else
      let minor := Unicode.decimalValue minorDigits
      if Unicode.decimalValue majorDigits = major ∧ leastMinor ≤ minor then .ok ⟨minor⟩
      else .error .invalid

end Version

end PackageIndex
