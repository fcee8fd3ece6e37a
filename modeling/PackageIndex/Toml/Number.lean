import PackageIndex.Toml.Reader
import PackageIndex.Source.Escape
import PackageIndex.Value

/-!
# Numbers in settings files

Single low lines may stand between the digits of a number.  An integer is decimal with an optional
sign, or it has no sign and is marked as hexadecimal, octal or binary; a decimal with a fraction or
an exponent is a floating-point number.
-/

namespace PackageIndex.Toml

/-- The digits of a run in which single low lines may stand between two digits, and the rest; a low
line that no digit follows is left.  `afterDigit` tells that a digit came just before. -/
def digitRun (isDigit : Char → Bool) (afterDigit : Bool) : List Char → List Char × List Char
  | [] => ([], [])
  | c :: rest =>
    if isDigit c then
      let (digits, rest) := digitRun isDigit true rest
      (c :: digits, rest)
    else if c = '_' ∧ afterDigit ∧ rest.head?.any isDigit then digitRun isDigit false rest
    else ([], c :: rest)

/-- The value of digits to a base. -/
def valueOf (base : Nat) (digits : List Char) : Nat :=
  digits.foldl (fun n c => base * n + (Source.hexValue? c).getD 0) 0

/-- An integer to another base than ten, and the rest. -/
def basedInteger? (cs : List Char) : Option (Nat × List Char) :=
  let read (base : Nat) (isDigit : Char → Bool) (rest : List Char) : Option (Nat × List Char) :=
    let (digits, rest) := digitRun isDigit false rest
    if digits.isEmpty then none else some (valueOf base digits, rest)
  match cs with
  | '0' :: 'x' :: rest => read 16 (fun c => (Source.hexValue? c).isSome) rest
  | '0' :: 'o' :: rest => read 8 Source.isOctal rest
  | '0' :: 'b' :: rest => read 2 (fun c => c == '0' || c == '1') rest
  | _ => none

/-- The sign in front of a number, and the rest. -/
def sign (cs : List Char) : Bool × List Char :=
  match cs with
  | '-' :: rest => (true, rest)
  | '+' :: rest => (false, rest)
  | _ => (false, cs)

/-- The digits of a fraction, if there is one, and the rest. -/
def fraction? (cs : List Char) : Option (List Char × List Char) :=
  match cs with
  | '.' :: rest =>
    let (digits, rest) := digitRun Char.isDigit false rest
    if digits.isEmpty then none else some (digits, rest)
  | _ => none

/-- An exponent, if there is one, and the rest. -/
def exponent? (cs : List Char) : Option (Int × List Char) :=
  match cs with
  | e :: rest =>
    if e = 'e' ∨ e = 'E' then
      let (negative, rest) := sign rest
      let (digits, rest) := digitRun Char.isDigit false rest
      if digits.isEmpty then none
      else
        let value : Int := valueOf 10 digits
        some (if negative then -value else value, rest)
    else none
  | [] => none

/-- The digits of a decimal integer, which begins with zero only if it is zero, and the rest. -/
def integerDigits? (cs : List Char) : Option (List Char × List Char) :=
  match cs with
  | '0' :: rest => some (['0'], rest)
  | c :: _ => if c.isDigit then some (digitRun Char.isDigit false cs) else none
  | [] => none

/-- A decimal number, and the rest. -/
def decimal? (cs : List Char) : Option (Except TextFault Value × List Char) := do
  let (negative, rest) := sign cs
  let (digits, rest) ← integerDigits? rest
  match fraction? rest, exponent? ((fraction? rest).elim rest (·.2)) with
  | none, none =>
    let value : Int := valueOf 10 digits
    if maxDigits < digits.length then some (.error (.tooManyDigits digits.length), rest)
    else some (.ok (.integer (if negative then -value else value)), rest)
  | some (places, rest), none => some (floating negative (digits ++ places) (-places.length), rest)
  | none, some (exponent, rest) => some (floating negative digits exponent, rest)
  | some (places, _), some (exponent, rest) =>
    some (floating negative (digits ++ places) (exponent - places.length), rest)
where
  /-- A floating-point number. -/
  floating (negative : Bool) (digits : List Char) (exponent : Int) : Except TextFault Value :=
    .ok (.float (Decimal.Binary64.ofDecimal negative (valueOf 10 digits) exponent))

/-- An infinity or the value that is no number, and the rest. -/
def specialFloat? (cs : List Char) : Option (Value × List Char) :=
  let (negative, rest) := sign cs
  match rest with
  | 'i' :: 'n' :: 'f' :: rest => some (.float (.infinite negative), rest)
  | 'n' :: 'a' :: 'n' :: rest => some (.float .nan, rest)
  | _ => none

end PackageIndex.Toml
