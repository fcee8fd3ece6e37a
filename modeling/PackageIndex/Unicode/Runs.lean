/-!
# Tables of runs

A property of code points is recorded by the lengths of the runs that alternately lack it and have
it, starting at code point zero with a run that lacks it.  The running sums of these lengths are the
borders at which membership flips, so a code point has the property exactly when the number of
borders at or below it is odd.
-/

namespace PackageIndex.Unicode

/-- The value of a digit of a number written to base sixteen, lower case letters only. -/
def hexDigit? (c : Char) : Option Nat :=
  if '0' ≤ c ∧ c ≤ '9' then some (c.toNat - '0'.toNat)
  else if 'a' ≤ c ∧ c ≤ 'f' then some (c.toNat - 'a'.toNat + 10)
  else none

/-- The numbers written to base sixteen in a text; anything that is not a digit separates. -/
def hexNumbers (text : String) : List Nat :=
  let (done, last) := text.toList.foldl
    (fun (acc : List Nat × Option Nat) c =>
      match hexDigit? c, acc with
      | some d, (done, some n) => (done, some (16 * n + d))
      | some d, (done, none) => (done, some d)
      | none, (done, some n) => (n :: done, none)
      | none, (done, none) => (done, none))
    (([] : List Nat), (none : Option Nat))
  (last.toList ++ done).reverse

/-- The running sums of a list of lengths. -/
def runningSums (lengths : List Nat) : List Nat :=
  ((lengths.foldl (fun (acc : List Nat × Nat) n => ((acc.2 + n) :: acc.1, acc.2 + n))
    (([] : List Nat), 0)).1).reverse

/-- A set of code points, given by the borders at which membership flips, in increasing order. -/
structure RunTable where
  borders : Array Nat

namespace RunTable

/-- The table of the run lengths written in a text. -/
def ofLengths (text : String) : RunTable :=
  ⟨(runningSums (hexNumbers text)).toArray⟩

/-- The number of borders at or below `n`, by halving the interval `[lo, hi)` at most `steps`
times. -/
def rank (borders : Array Nat) (n : Nat) : Nat → Nat → Nat → Nat
  | 0, lo, _ => lo
  | steps + 1, lo, hi =>
    if hi ≤ lo then lo
    else
      let mid := (lo + hi) / 2
      if borders.getD mid 0 ≤ n then rank borders n steps (mid + 1) hi
      else rank borders n steps lo mid

/-- Membership: an odd number of borders lies at or below the code point. -/
def contains (t : RunTable) (n : Nat) : Bool :=
  rank t.borders n t.borders.size 0 t.borders.size % 2 == 1

end RunTable

end PackageIndex.Unicode
