import PackageIndex.Version
import PackageIndex.Path

/-!
# Configurations

All that a run depends on besides the disk.
-/

namespace PackageIndex

/-- The settings of a run. -/
structure Config where
  /-- Where the run starts. -/
  root : Path
  /-- The version of the language that the sources are read in. -/
  version : Version
  /-- Listings say which names of a source are exposed. -/
  respectListing : Bool
  /-- Indexes are sorted. -/
  sort : Bool
  /-- Every step is told. -/
  verbose : Bool
  /-- Globs for the names of entries that are left out. -/
  exclude : List String
deriving DecidableEq, Repr

/-- The configuration with another start. -/
def Config.withRoot (c : Config) (root : Path) : Config := { c with root }

end PackageIndex
