import PackageIndex.Decimal.Limit
import PackageIndex.Decimal.Shortest
import PackageIndex.Text.Quoted

/-!
# Values of settings

A settings file can give a setting a value of any kind.  A message that refuses a value shows it in
full.
-/

namespace PackageIndex

/-- A day of the calendar. -/
structure Date where
  year : Nat
  month : Nat
  day : Nat
deriving DecidableEq, Repr

/-- A time of the day. -/
structure TimeOfDay where
  hour : Nat
  minute : Nat
  second : Nat
  microsecond : Nat
deriving DecidableEq, Repr

/-- The value of a setting. -/
inductive Value where
  | null
  | boolean (b : Bool)
  | integer (n : Int)
  | float (x : Decimal.Binary64)
  | text (s : String)
  | list (items : List Value)
  /-- Values by name, in the order in which they were given. -/
  | table (items : List (String × Value))
  | date (day : Date)
  | time (time : TimeOfDay)
  /-- A point in time; the offset from universal time is in minutes. -/
  | dateTime (day : Date) (time : TimeOfDay) (offset : Option Int)
deriving Repr, Inhabited

namespace Value

/-- What a kind of value is called in messages. -/
def kindName : Value → String
  | .null => "NoneType"
  | .boolean _ => "bool"
  | .integer _ => "int"
  | .float _ => "float"
  | .text _ => "str"
  | .list _ => "list"
  | .table _ => "dict"
  | .date _ => "datetime.date"
  | .time _ => "datetime.time"
  | .dateTime _ _ _ => "datetime.datetime"

/-- An integer as it is shown, unless it has too many digits. -/
def showInteger (n : Int) : Option String :=
  let digits := Nat.toDigits 10 n.natAbs
  if maxDigits < digits.length then none
  else some (String.ofList (if n < 0 then '-' :: digits else digits))

/-- Items between commas. -/
def commaSeparated (items : List String) : String := ", ".intercalate items

/-- A name with arguments in parentheses. -/
def call (name : String) (arguments : List String) : String :=
  name ++ "(" ++ commaSeparated arguments ++ ")"

/-- The components of a day. -/
def dateParts (d : Date) : List String := [toString d.year, toString d.month, toString d.day]

/-- The components of a time; the last ones are left out if they are zero. -/
def timeParts (t : TimeOfDay) : List String :=
  [toString t.hour, toString t.minute] ++
    (if t.second = 0 ∧ t.microsecond = 0 then [] else [toString t.second]) ++
    (if t.microsecond = 0 then [] else [toString t.microsecond])

/-- An offset from universal time.  A negative one is shown as a day less and the seconds up to
it. -/
def showOffset (minutes : Int) : String :=
  if minutes = 0 then "datetime.timezone.utc"
  else
    let seconds := "seconds=" ++ toString ((60 * minutes) % 86400)
    let days := if minutes < 0 then ["days=-1"] else []
    call "datetime.timezone" [call "datetime.timedelta" (days ++ [seconds])]

mutual

/-- A value as messages show it; `none` if it holds an integer that is too long to be shown. -/
def shown : Value → Option String
  | .null => some "None"
  | .boolean b => some (if b then "True" else "False")
  | .integer n => showInteger n
  | .float x => some (x.text Decimal.plainStyle)
  | .text s => some (Text.quoted s)
  | .list items => (shownAll items).map fun texts => "[" ++ commaSeparated texts ++ "]"
  | .table items => (shownItems items).map fun texts => "\x7b" ++ commaSeparated texts ++ "\x7d"
  | .date d => some (call "datetime.date" (dateParts d))
  | .time t => some (call "datetime.time" (timeParts t))
  | .dateTime d t offset =>
    let zone := offset.toList.map fun minutes => "tzinfo=" ++ showOffset minutes
    some (call "datetime.datetime" (dateParts d ++ timeParts t ++ zone))

/-- The texts of values. -/
def shownAll : List Value → Option (List String)
  | [] => some []
  | v :: rest => do
    let first ← shown v
    let others ← shownAll rest
    some (first :: others)

/-- The texts of named values. -/
def shownItems : List (String × Value) → Option (List String)
  | [] => some []
  | (key, v) :: rest => do
    let first ← shown v
    let others ← shownItems rest
    some ((Text.quoted key ++ ": " ++ first) :: others)

end

end Value

end PackageIndex
