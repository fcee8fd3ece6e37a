import PackageIndex.Decimal.Limit
import PackageIndex.Disk.Resolve
import PackageIndex.Text.Utf8
import PackageIndex.Text.Quoted

/-!
# Failures

A failure ends a run.  Most failures are reported: they are about a setting, or about a path, and
say so in one sentence.  The others are not foreseen by the program and reach its caller as they
are.
-/

namespace PackageIndex

/-- Why a file could not be read as a text. -/
inductive ReadFault where
  | disk (fault : Fault)
  | undecodable (fault : Text.DecodeFault)
deriving DecidableEq, Repr

/-- Why a run fails. -/
inductive Failure where
  /-- The version text names no version. -/
  | invalidVersion (text : String)
  /-- The version is not given as a text; the value is shown. -/
  | versionNotText (shown : String)
  /-- The excluded names are not a list of texts. -/
  | excludeNotList
  /-- A switch has a value that is neither true nor false; the value is shown. -/
  | notBoolean (key : String) (shown : String)
  /-- Nothing stands at the path. -/
  | missing (path : Path)
  /-- The path leads to something that no index can be made for. -/
  | unsupported (path : Path)
  /-- The source cannot be read. -/
  | notRead (path : Path) (fault : ReadFault)
  /-- The directory cannot be listed. -/
  | notListed (path : Path) (fault : Fault)
  /-- The source does not follow the grammar. -/
  | notParsed (path : Path)
  /-- The index cannot be written. -/
  | notWritten (path : Path) (fault : Fault)
  /-- A number is given by that many digits, too many to be read. -/
  | tooManyDigits (count : Nat)
  /-- A number has too many digits to be shown. -/
  | tooLongToShow
  /-- The minor number of the version is too large for the grammar. -/
  | minorTooLarge
  /-- The excluded names are given by a value of a kind that has no items. -/
  | notIterable (kind : String)
  /-- The tables of tools are a value of a kind that has no names inside. -/
  | noNames (kind : String)
deriving DecidableEq, Repr

namespace Failure

/-- The failure is foreseen and reported. -/
def isReported : Failure → Bool
  | .tooManyDigits _ | .tooLongToShow | .minorTooLarge | .notIterable _ | .noNames _ => false
  | _ => true

/-- The path that a failure is about. -/
def path? : Failure → Option Path
  | .missing p | .unsupported p | .notRead p _ | .notListed p _ | .notParsed p
  | .notWritten p _ => some p
  | _ => none

/-- A path as it is shown inside a message of the system. -/
def quotedPath (p : Path) : String := Text.quoted p.toString

/-- What is said of a fault of reading. -/
def readFaultMessage (p : Path) : ReadFault → String
  | .disk fault => fault.message (quotedPath p)
  | .undecodable fault => fault.message

/-- The limit on the digits of numbers, as messages name it. -/
def digitLimit : String :=
  "Exceeds the limit (" ++ toString maxDigits ++ " digits) for integer string conversion"

/-- The advice on that limit. -/
def digitAdvice : String := "; use sys.set_int_max_str_digits() to increase the limit"

/-- What is said of a failure. -/
def message : Failure → String
  | .invalidVersion text => "Python version " ++ text ++ " is not valid"
  | .versionNotText shown =>
    "python-version must be a quoted string such as '3.12', got " ++ shown
  | .excludeNotList => "exclude must be a list of glob patterns"
  | .notBoolean key shown => key ++ " must be true or false, got " ++ shown
  | .missing p => "Path " ++ p.toString ++ " does not exist"
  | .unsupported p => "Path " ++ p.toString ++ " is not a directory or Python source file"
  | .notRead p fault => "Failed to read file " ++ p.toString ++ ": " ++ readFaultMessage p fault
  | .notListed p fault => "Cannot list " ++ p.toString ++ ": " ++ fault.message (quotedPath p)
  | .notParsed p => "Failed to parse " ++ p.toString
  | .notWritten p fault => "Cannot write " ++ p.toString ++ ": " ++ fault.message (quotedPath p)
  | .tooManyDigits count =>
    digitLimit ++ ": value has " ++ toString count ++ " digits" ++ digitAdvice
  | .tooLongToShow => digitLimit ++ digitAdvice
  | .minorTooLarge => "Python int too large to convert to C int"
  | .notIterable kind => "'" ++ kind ++ "' object is not iterable"
  | .noNames kind => "'" ++ kind ++ "' object has no attribute 'get'"

end Failure

end PackageIndex
