import RpmProvision.Archive.Bits
import RpmProvision.Archive.Gzip
import RpmProvision.Archive.Inflate
import RpmProvision.Archive.Tar
import RpmProvision.Archive.Tar.Header
import RpmProvision.Archive.Tar.Pack
import RpmProvision.Archive.Tar.Records
import RpmProvision.Archive.Tar.Sparse
import RpmProvision.Archive.Worker
import RpmProvision.Cloner
import RpmProvision.CommandLine.Arguments
import RpmProvision.CommandLine.LogFilter
import RpmProvision.CommandLine.LogRule
import RpmProvision.CommandLine.Program
import RpmProvision.Config
import RpmProvision.Disk.Access
import RpmProvision.Disk.Basic
import RpmProvision.Disk.Directories
import RpmProvision.Disk.Entries
import RpmProvision.Disk.Files
import RpmProvision.Disk.Path
import RpmProvision.Error
import RpmProvision.Event
import RpmProvision.Fetch
import RpmProvision.Graph.Basic
import RpmProvision.Graph.Document
import RpmProvision.Graph.File
import RpmProvision.Graph.Node
import RpmProvision.Graph.Requirement
import RpmProvision.Json.Basic
import RpmProvision.Json.Fields
import RpmProvision.Json.Lexer
import RpmProvision.Json.Printer
import RpmProvision.Json.Reader
import RpmProvision.Json.Strict
import RpmProvision.Listing.Provides
import RpmProvision.Listing.Transaction
import RpmProvision.Main
import RpmProvision.Manifest
import RpmProvision.Proofs.Archive.Confinement
import RpmProvision.Proofs.Blame
import RpmProvision.Proofs.Commit
import RpmProvision.Proofs.Course
import RpmProvision.Proofs.Disk
import RpmProvision.Proofs.Disk.Apart
import RpmProvision.Proofs.Disk.Child
import RpmProvision.Proofs.Disk.Copying
import RpmProvision.Proofs.Disk.Growth
import RpmProvision.Proofs.Disk.Spelling
import RpmProvision.Proofs.Disk.Standing
import RpmProvision.Proofs.Disk.Tree
import RpmProvision.Proofs.Distinct
import RpmProvision.Proofs.Exchanges
import RpmProvision.Proofs.Fetch
import RpmProvision.Proofs.Graph.Advance
import RpmProvision.Proofs.Graph.Basic
import RpmProvision.Proofs.Graph.Build
import RpmProvision.Proofs.Graph.Document
import RpmProvision.Proofs.Graph.Edits
import RpmProvision.Proofs.Graph.Links
import RpmProvision.Proofs.Graph.Merge
import RpmProvision.Proofs.Graph.Presentation
import RpmProvision.Proofs.Graph.Remotes
import RpmProvision.Proofs.Graph.Reread
import RpmProvision.Proofs.Graph.Sound
import RpmProvision.Proofs.Growth
import RpmProvision.Proofs.Json.Fields
import RpmProvision.Proofs.Json.Grammar
import RpmProvision.Proofs.Json.Lexer
import RpmProvision.Proofs.Json.Reader
import RpmProvision.Proofs.Lifting
import RpmProvision.Proofs.Listing.Provides
import RpmProvision.Proofs.Listing.Recognition
import RpmProvision.Proofs.Listing.Transaction
import RpmProvision.Proofs.Manifest
import RpmProvision.Proofs.Opening
import RpmProvision.Proofs.Path
import RpmProvision.Proofs.RepoFile
import RpmProvision.Proofs.Resolution.Choice
import RpmProvision.Proofs.Resolution.Chronicle
import RpmProvision.Proofs.Resolution.Effect
import RpmProvision.Proofs.Resolution.Errors
import RpmProvision.Proofs.Resolution.Events
import RpmProvision.Proofs.Resolution.Failures
import RpmProvision.Proofs.Resolution.Frame
import RpmProvision.Proofs.Resolution.Invariant
import RpmProvision.Proofs.Resolution.Node
import RpmProvision.Proofs.Resolution.Outcomes
import RpmProvision.Proofs.Resolution.Placement
import RpmProvision.Proofs.Resolution.Requests
import RpmProvision.Proofs.Resolution.Toolchain
import RpmProvision.Proofs.Resolution.Transparency
import RpmProvision.Proofs.Resolution.Turn
import RpmProvision.Proofs.Resolution.Verdict
import RpmProvision.Proofs.Selection
import RpmProvision.Proofs.SortedMap
import RpmProvision.Proofs.Step
import RpmProvision.Proofs.Summary
import RpmProvision.Proofs.Takeover
import RpmProvision.Proofs.Tdnf.Acts
import RpmProvision.Proofs.Tdnf.Agreement
import RpmProvision.Proofs.Tdnf.Bookkeeping
import RpmProvision.Proofs.Tdnf.Cloner
import RpmProvision.Proofs.Tdnf.Delivery
import RpmProvision.Proofs.Tdnf.Footprint
import RpmProvision.Proofs.Tdnf.InPlace
import RpmProvision.Proofs.Tdnf.Index
import RpmProvision.Proofs.Tdnf.LocalRpms
import RpmProvision.Proofs.Tdnf.RepoFiles
import RpmProvision.Proofs.Tdnf.Restoration
import RpmProvision.Proofs.Tdnf.Restore
import RpmProvision.Proofs.Tdnf.SetUp
import RpmProvision.Proofs.Tdnf.Sparing
import RpmProvision.Proofs.Tdnf.Switches
import RpmProvision.Proofs.TestTransaction
import RpmProvision.Proofs.Text
import RpmProvision.Proofs.Text.Pattern
import RpmProvision.Proofs.Visits
import RpmProvision.Proofs.World
import RpmProvision.RepoFile
import RpmProvision.Resolution.Cache
import RpmProvision.Resolution.Node
import RpmProvision.Resolution.Report
import RpmProvision.Resolution.Run
import RpmProvision.Selection
import RpmProvision.SortedMap
import RpmProvision.Step
import RpmProvision.Summary
import RpmProvision.Tdnf.Cloner
import RpmProvision.Tdnf.Environment
import RpmProvision.Tdnf.LocalRpms
import RpmProvision.TestTransaction
import RpmProvision.Text.Alphanumeric
import RpmProvision.Text.Blank
import RpmProvision.Text.Lines
import RpmProvision.Text.Numeral
import RpmProvision.Text.Quoted
import RpmProvision.Text.Shapeless
import RpmProvision.Text.Utf8
import RpmProvision.World
import RpmProvision.Proofs.Listing.Recognition
