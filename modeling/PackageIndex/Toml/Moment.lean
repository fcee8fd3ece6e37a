import PackageIndex.Value

/-!
# Dates and times in settings files

A day is written as year, month and day, a time as hour, minute and second with an optional
fraction, and a point in time as both of them with an optional offset from universal time.  Every
component has a fixed number of digits; a fraction is cut to millionths.
-/

namespace PackageIndex.Toml

/-- The number given by exactly that many digits, and the rest. -/
def fixedNumber (count : Nat) (cs : List Char) : Option (Nat × List Char) :=
  let digits := cs.take count
  if digits.length = count ∧ digits.all Char.isDigit then
    some (digits.foldl (fun n c => 10 * n + (c.toNat - 48)) 0, cs.drop count)
  else none

/-- The number given by two digits, if it lies within the bounds, and the rest. -/
def component (low high : Nat) (cs : List Char) : Option (Nat × List Char) := do
  let (n, rest) ← fixedNumber 2 cs
  guard (low ≤ n ∧ n ≤ high)
  some (n, rest)

/-- What stands behind the given character. -/
def behind (c : Char) : List Char → Option (List Char)
  | [] => none
  | d :: rest => if d = c then some rest else none

/-- A fraction of a second in millionths, if there is one, and the rest. -/
def microseconds (cs : List Char) : Nat × List Char :=
  match cs with
  | '.' :: rest =>
    let digits := rest.takeWhile Char.isDigit
    if digits.isEmpty then (0, cs)
    else
      let six := (digits ++ List.replicate 6 '0').take 6
      (six.foldl (fun n c => 10 * n + (c.toNat - 48)) 0, rest.drop digits.length)
  | _ => (0, cs)

/-- A time of the day, and the rest. -/
def timeOfDay? (cs : List Char) : Option (TimeOfDay × List Char) := do
  let (hour, rest) ← component 0 23 cs
  let rest ← behind ':' rest
  let (minute, rest) ← component 0 59 rest
  let rest ← behind ':' rest
  let (second, rest) ← component 0 59 rest
  let (micros, rest) := microseconds rest
  some (⟨hour, minute, second, micros⟩, rest)

/-- The form of a day, whether the calendar has it or not, and the rest. -/
def date? (cs : List Char) : Option (Date × List Char) := do
  let (year, rest) ← fixedNumber 4 cs
  let rest ← behind '-' rest
  let (month, rest) ← component 1 12 rest
  let rest ← behind '-' rest
  let (day, rest) ← component 1 31 rest
  some (⟨year, month, day⟩, rest)

/-- An offset from universal time in minutes, and the rest. -/
def offset? (cs : List Char) : Option (Int × List Char) :=
  match cs with
  | 'Z' :: rest | 'z' :: rest => some (0, rest)
  | sign :: rest => do
    guard (sign = '+' ∨ sign = '-')
    let (hours, rest) ← component 0 23 rest
    let rest ← behind ':' rest
    let (minutes, rest) ← component 0 59 rest
    let total : Int := 60 * hours + minutes
    some (if sign = '-' then -total else total, rest)
  | [] => none

/-- The year has a day more in February. -/
def isLeapYear (year : Nat) : Bool := year % 4 == 0 && (year % 100 != 0 || year % 400 == 0)

/-- The number of days of a month. -/
def daysIn (year month : Nat) : Nat :=
  if month = 2 then (if isLeapYear year then 29 else 28)
  else if month ∈ [4, 6, 9, 11] then 30 else 31

/-- The calendar has the day; it begins with the year one. -/
def inCalendar (d : Date) : Bool := 1 ≤ d.year && d.day ≤ daysIn d.year d.month

/-- The time behind a day and its separator, and the rest. -/
def timeBehindDate? (cs : List Char) : Option (TimeOfDay × List Char) :=
  match cs with
  | c :: rest => if c = 'T' ∨ c = 't' ∨ c = ' ' then timeOfDay? rest else none
  | [] => none

/-- A day or a point in time, and the rest. -/
def moment? (cs : List Char) : Option (Date × Value × List Char) := do
  let (day, rest) ← date? cs
  match timeBehindDate? rest with
  | none => some (day, .date day, rest)
  | some (time, rest) =>
    match offset? rest with
    | some (offset, rest) => some (day, .dateTime day time (some offset), rest)
    | none => some (day, .dateTime day time none, rest)

end PackageIndex.Toml
