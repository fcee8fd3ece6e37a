import PackageIndex.Unicode.Normal
import PackageIndex.Unicode.Printable
import PackageIndex.Unicode.Identifier
import PackageIndex.Unicode.Digit
import PackageIndex.Unicode.Blank
import PackageIndex.Source.Module
import PackageIndex.Exposure
import PackageIndex.Text.Utf8
import PackageIndex.Text.Newline
import PackageIndex.Text.Quoted
import PackageIndex.Index.Render
import PackageIndex.Disk.Resolve
import PackageIndex.Value
import PackageIndex.Generate
import PackageIndex.Disk.Edit
import PackageIndex.Toml.Document
import PackageIndex.CommandLine
import PackageIndex.Main
import PackageIndex.Proofs.IndexFiles
import PackageIndex.Proofs.Outline
import PackageIndex.Proofs.Abort
import PackageIndex.Proofs.Flattening
import PackageIndex.Proofs.History
import PackageIndex.Proofs.ListingOrder
import PackageIndex.Proofs.Reexports
import PackageIndex.Proofs.Confinement
import PackageIndex.Proofs.SortFlag
import PackageIndex.Proofs.Subtrees
import PackageIndex.Proofs.Pruning
import PackageIndex.Proofs.ValidIndexes
import PackageIndex.Proofs.Diagnostics
import PackageIndex.Proofs.Termination
import PackageIndex.Proofs.PrivateNames
import PackageIndex.Proofs.Failures
import PackageIndex.Proofs.Decoding
import PackageIndex.Proofs.Loading
import PackageIndex.Proofs.Commands
import PackageIndex.Proofs.SectionOrder
import PackageIndex.Proofs.Precedence
import PackageIndex.Proofs.Scans
import PackageIndex.Proofs.VersionTexts
import PackageIndex.Proofs.Replacement
import PackageIndex.Proofs.FailurePlaces
