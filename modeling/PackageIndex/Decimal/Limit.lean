/-!
# The limit on long numbers

The time that it takes to turn decimal digits into an integer, or an integer into digits, grows with
the square of their number.  Version texts, settings and sources may come from anywhere, so that
integers with too many digits are refused in both directions.  To bases that are powers of two there
is no such limit.
-/

namespace PackageIndex

/-- The greatest number of decimal digits of an integer that is read or shown. -/
def maxDigits : Nat := 4300

end PackageIndex
