import PackageIndex.Failure

/-!
# Notices

What a run tells its user while it works, one notice for each event.
-/

namespace PackageIndex

/-- An event that the user is told of. -/
inductive Notice where
  /-- A source was read and exposes that many names. -/
  | parsed (path : Path) (count : Nat)
  /-- A directory below which nothing is exposed. -/
  | skippedEmpty (path : Path)
  /-- An index was written. -/
  | wrote (path : Path)
  /-- A settings file could not be read. -/
  | settingsUnreadable (path : Path)
  /-- The settings in a file are not a table. -/
  | settingsNotTable (path : Path)
  /-- A run failed. -/
  | failed (failure : Failure)
  /-- A run succeeded with that many indexes. -/
  | finished (count : Nat)
  /-- The version of the program was asked for. -/
  | programVersion
deriving DecidableEq, Repr

namespace Notice

/-- The text of a notice. -/
def text : Notice → String
  | .parsed p count => "Parsed " ++ p.toString ++ " (" ++ toString count ++ " exposed)"
  | .skippedEmpty p => "Skipping empty " ++ p.toString
  | .wrote p => "Wrote " ++ p.toString
  | .settingsUnreadable p => "Warning: Could not parse " ++ p.toString
  | .settingsNotTable p => "Warning: Ignoring non-table [tool.initgen] in " ++ p.toString
  | .failed failure => "Error: " ++ failure.message
  | .finished count =>
    "initgen wrote " ++ toString count ++ " index " ++ if count = 1 then "file" else "files"
  | .programVersion => "initgen 0.1.0"

/-- The lines of a notice; names may hold newlines. -/
def lines (n : Notice) : List String := n.text.splitOn "\n"

end Notice

end PackageIndex
