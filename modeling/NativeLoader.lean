import NativeLoader.Text.Utf8
import NativeLoader.Text.Pieces
import NativeLoader.Text.Blank
import NativeLoader.Text.Hidden
import NativeLoader.Text.Quoted
import NativeLoader.FileSystem.Basic
import NativeLoader.Path
import NativeLoader.FileSystem.Operations
import NativeLoader.Digest.Sha256
import NativeLoader.Failure
import NativeLoader.Naming
import NativeLoader.Draws
import NativeLoader.InstallName
import NativeLoader.Package.Choice
import NativeLoader.Relocation
import NativeLoader.Context.Basic
import NativeLoader.Linker.Tabulated
import NativeLoader.Linker.Platform
import NativeLoader.Extraction.Copy
import NativeLoader.Extraction.Directory
import NativeLoader.Extraction.Permission
import NativeLoader.Loading.Binding
import NativeLoader.Loading.FirstAvailable
import NativeLoader.Engine.EntryPoint
import NativeLoader.Engine.Basic
import NativeLoader.Engine.Scripted
import NativeLoader.Probe
import NativeLoader.Main
import NativeLoader.Proofs.Loading.Outcome
import NativeLoader.Proofs.Loading.Scan
import NativeLoader.Proofs.Session.Basic
import NativeLoader.Proofs.Session.LoadOnce
import NativeLoader.Proofs.Session.EntryPoints
import NativeLoader.Proofs.Text.Pieces
import NativeLoader.Proofs.Text.Outline
import NativeLoader.Proofs.FileSystem.Growth
import NativeLoader.Proofs.Session.Collision
import NativeLoader.Proofs.Extraction.Copies
import NativeLoader.Proofs.Package.Picking
import NativeLoader.Proofs.Package.Choosing
import NativeLoader.Proofs.Loading.Provenance
import NativeLoader.Proofs.Loading.BuildNames
import NativeLoader.Proofs.Extraction.Disposal
import NativeLoader.Proofs.Loading.Course
import NativeLoader.Proofs.Loading.InstallNames
import NativeLoader.Proofs.Loading.Atomicity
import NativeLoader.Proofs.Loading.RequestOrder
import NativeLoader.Proofs.Session.Leftovers
import NativeLoader.Proofs.FileSystem.DrawnNames
import NativeLoader.Proofs.Extraction.DrawnCopies
import NativeLoader.Proofs.Loading.Independence
import NativeLoader.Proofs.Loading.Drawing
import NativeLoader.Proofs.Loading.Search
import NativeLoader.Proofs.Loading.Chronology
import NativeLoader.Proofs.Loading.Renaming
import NativeLoader.Proofs.FileSystem.Absolute
import NativeLoader.Proofs.FileSystem.Preparing
import NativeLoader.Proofs.Extraction.Places
import NativeLoader.Proofs.Loading.Housing
import NativeLoader.Proofs.Session.Settled
import NativeLoader.Proofs.Loading.Footprint
import NativeLoader.Proofs.Loading.NewLibraries
import NativeLoader.Proofs.Session.Entries
import NativeLoader.Proofs.Session.Commuting
import NativeLoader.Proofs.Engine.Relaying
import NativeLoader.Proofs.Package.RootLists
import NativeLoader.Proofs.Extraction.Confinement
import NativeLoader.Proofs.Extraction.Digests
import NativeLoader.Proofs.Package.Counterparts
import NativeLoader.Proofs.Loading.Spellings
import NativeLoader.Proofs.FileSystem.Erasing
import NativeLoader.Proofs.Extraction.Deferral
import NativeLoader.Proofs.Session.KeptCopies
import NativeLoader.Proofs.Extraction.Unpacking
import NativeLoader.Proofs.Engine.Checks
import NativeLoader.Proofs.Settings.Switches
