/-!
# Ends of lines

A line of a text file ends with a line feed, a carriage return, or both in this order; a reader sees
a line feed in each case.
-/

namespace PackageIndex.Text

/-- The characters with every end of line turned into a line feed. -/
def unifyNewlines : List Char → List Char
  | '\r' :: '\n' :: rest => '\n' :: unifyNewlines rest
  | '\r' :: rest => '\n' :: unifyNewlines rest
  | c :: rest => c :: unifyNewlines rest
  | [] => []

end PackageIndex.Text
