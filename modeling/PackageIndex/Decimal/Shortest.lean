import PackageIndex.Decimal.Binary64

/-!
# Shortest decimal texts

A floating-point number is written with the fewest digits that read back as the same number; of the
texts with that many digits the nearest one is taken.  All decimals that read back as the number
make up an interval, whose ends belong to it if the significand is even.  For one digit, two digits
and so on, the two decimals next to the number are tried.
-/

namespace PackageIndex.Decimal

/-- A nonnegative fraction. -/
structure Fraction where
  num : Nat
  den : Nat

namespace Fraction

/-- The fraction times a power of ten. -/
def scale (x : Fraction) (exponent : Int) : Fraction :=
  if 0 ≤ exponent then ⟨x.num * Nat.pow 10 exponent.toNat, x.den⟩
  else ⟨x.num, x.den * Nat.pow 10 (-exponent).toNat⟩

/-- The order of fractions with positive denominators. -/
def lt (x y : Fraction) : Bool := x.num * y.den < y.num * x.den

/-- The distance of two fractions. -/
def distance (x y : Fraction) : Fraction :=
  let a := x.num * y.den
  let b := y.num * x.den
  ⟨max a b - min a b, x.den * y.den⟩

end Fraction

/-- A quarter of `quarters` times a power of two. -/
def quartersScaled (quarters : Nat) (exponent : Int) : Fraction :=
  if 0 ≤ exponent then ⟨quarters * Nat.pow 2 exponent.toNat, 4⟩
  else ⟨quarters, 4 * Nat.pow 2 (-exponent).toNat⟩

/-- The position of the first digit of a positive fraction: the greatest power of ten at or below
it. -/
def leadingExponent (x : Fraction) : Int :=
  if x.den ≤ x.num then ((Nat.toDigits 10 (x.num / x.den)).length : Int) - 1
  else
    let d := (Nat.toDigits 10 (x.den / x.num)).length
    if x.den = x.num * Nat.pow 10 (d - 1) then 1 - (d : Int) else -(d : Int)

/-- The decimals that read back as a number, between two ends that may belong to them. -/
structure ReadBack where
  value : Fraction
  low : Fraction
  high : Fraction
  closed : Bool

namespace ReadBack

/-- The decimals that read back as a positive number.  Below a power of two the next number is only
half as far away. -/
def ofNumber (significand : Nat) (exponent : Int) : ReadBack :=
  let narrow := significand = Binary64.significandBound / 2 ∧ Binary64.minExponent < exponent
  { value := quartersScaled (4 * significand) exponent
    low := quartersScaled (4 * significand - if narrow then 1 else 2) exponent
    high := quartersScaled (4 * significand + 2) exponent
    closed := significand % 2 = 0 }

/-- The decimal reads back as the number. -/
def contains (r : ReadBack) (x : Fraction) : Bool :=
  if r.closed then ! x.lt r.low && ! r.high.lt x else r.low.lt x && x.lt r.high

/-- The decimal `n * 10 ^ exponent` that reads back as the number, of the two next to it; the nearer
one if both do, and the even one if they are equally near. -/
def neighbour? (r : ReadBack) (exponent : Int) : Option Nat :=
  let scaled := r.value.scale (-exponent)
  let below := scaled.num / scaled.den
  let decimal (n : Nat) : Fraction := (⟨n, 1⟩ : Fraction).scale exponent
  match r.contains (decimal below), r.contains (decimal (below + 1)) with
  | true, false => some below
  | false, true => some (below + 1)
  | false, false => none
  | true, true =>
    let down := r.value.distance (decimal below)
    let up := r.value.distance (decimal (below + 1))
    if down.lt up ∨ (¬ up.lt down ∧ below % 2 = 0) then some below else some (below + 1)

/-- The shortest decimal with at least `digits` digits that reads back, trying `tries` numbers of
digits; the digits and the exponent of the last one. -/
def shortestFrom (r : ReadBack) (leading : Int) (digits : Nat) : Nat → Nat × Int
  | 0 => (0, 0)
  | tries + 1 =>
    let exponent := leading - digits + 1
    match r.neighbour? exponent with
    | some n => (n, exponent)
    | none => r.shortestFrom leading (digits + 1) tries

/-- The shortest decimal that reads back; seventeen digits are always enough. -/
def shortest (r : ReadBack) : Nat × Int := r.shortestFrom (leadingExponent r.value) 1 17

end ReadBack

/-- The choices that a notation of numbers makes. -/
structure NumberStyle where
  /-- The least exponent that is written without naming it. -/
  leastPlain : Int
  /-- The least exponent above those that are written without naming them. -/
  leastLarge : Int
  /-- The least number of digits of a named exponent. -/
  exponentDigits : Nat

/-- Numbers from a ten-thousandth up to below ten to the sixteenth are written without exponents,
and exponents with two digits at least. -/
def plainStyle : NumberStyle := ⟨-4, 16, 2⟩

/-- The digits of a number without zeros at its end, and the exponent of its first digit. -/
def significantDigits (n : Nat) (exponent : Int) : List Char × Int :=
  let digits := Nat.toDigits 10 n
  ((digits.reverse.dropWhile (· = '0')).reverse, exponent + digits.length - 1)

/-- Digits written with a point, the first of them having the given exponent. -/
def positional (digits : List Char) (leading : Int) : List Char :=
  if leading < 0 then '0' :: '.' :: List.replicate (-leading - 1).toNat '0' ++ digits
  else
    let whole := leading.toNat + 1
    let fraction := digits.drop whole
    digits.take whole ++ List.replicate (whole - digits.length) '0' ++
      '.' :: if fraction.isEmpty then ['0'] else fraction

/-- Digits written with a named exponent. -/
def exponential (n : NumberStyle) (digits : List Char) (leading : Int) : List Char :=
  let mantissa := match digits with
    | d :: e :: rest => d :: '.' :: e :: rest
    | ds => ds
  let exponent := Nat.toDigits 10 leading.natAbs
  mantissa ++ 'e' :: (if leading < 0 then '-' else '+') ::
    List.replicate (n.exponentDigits - exponent.length) '0' ++ exponent

/-- The text of a number. -/
def Binary64.text (n : NumberStyle) : Binary64 → String
  | .nan => "nan"
  | .infinite negative => if negative then "-inf" else "inf"
  | .finite negative significand exponent =>
    let unsigned :=
      if significand = 0 then ['0', '.', '0']
      else
        let found := (ReadBack.ofNumber significand exponent).shortest
        let (digits, leading) := significantDigits found.1 found.2
        if n.leastPlain ≤ leading ∧ leading < n.leastLarge then positional digits leading
        else exponential n digits leading
    String.ofList (if negative then '-' :: unsigned else unsigned)

end PackageIndex.Decimal
