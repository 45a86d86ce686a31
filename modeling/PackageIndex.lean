import PackageIndex.Name.Controller
import PackageIndex.Name.Package
import PackageIndex.RelativePath
import PackageIndex.Decimal.Shortest
import PackageIndex.Json.Read
import PackageIndex.Json.Render
import PackageIndex.Json.Decode
import PackageIndex.Manifest
import PackageIndex.Route.Document
import PackageIndex.Descriptor
import PackageIndex.Address
import PackageIndex.Source
import PackageIndex.Php.Outline
import PackageIndex.Store.Memory
import PackageIndex.Store.Local
import PackageIndex.Store.Disk
import PackageIndex.Store.Race
import PackageIndex.Workspace.Routing
import PackageIndex.CommandLine.Report
import PackageIndex.Settings.VariableFile
import PackageIndex.Main
import PackageIndex.Proofs.Attempts
import PackageIndex.Proofs.Name.Qualified
import PackageIndex.Proofs.Name.Reference
import PackageIndex.Proofs.Json.Scalar
import PackageIndex.Proofs.Json.Value
import PackageIndex.Proofs.Json.Draft
import PackageIndex.Proofs.Json.Number
import PackageIndex.Proofs.Json.Grammar
import PackageIndex.Proofs.Json.RoundTrip
import PackageIndex.Proofs.Json.Key
import PackageIndex.Proofs.Json.Reading
import PackageIndex.Proofs.Json.Record
import PackageIndex.Proofs.Manifest
import PackageIndex.Proofs.Manifest.Insertion
import PackageIndex.Proofs.Manifest.Ownership
import PackageIndex.Proofs.Manifest.Entry
import PackageIndex.Proofs.Manifest.Order
import PackageIndex.Proofs.Manifest.Document
import PackageIndex.Proofs.Manifest.Repetition
import PackageIndex.Proofs.Route
import PackageIndex.Proofs.Route.Rewrite
import PackageIndex.Proofs.Address
import PackageIndex.Proofs.Address.Grammar
import PackageIndex.Proofs.Address.Printing
import PackageIndex.Proofs.Path.Parent
import PackageIndex.Proofs.RelativePath
import PackageIndex.Proofs.RelativePath.Spelling
import PackageIndex.Proofs.RelativePath.Naming
import PackageIndex.Proofs.RelativePath.Acceptance
import PackageIndex.Proofs.Store.History
import PackageIndex.Proofs.Workspace.Atomicity
import PackageIndex.Proofs.Workspace.Confinement
import PackageIndex.Proofs.Workspace.Separate
import PackageIndex.Proofs.Workspace.Rebuild
import PackageIndex.Proofs.Workspace.Controllers
import PackageIndex.Proofs.Workspace.Refinement
import PackageIndex.Proofs.Workspace.Log
import PackageIndex.Proofs.Workspace.Registration
import PackageIndex.Proofs.Workspace.Conflicts
import PackageIndex.Proofs.Workspace.Resolution
import PackageIndex.Proofs.Workspace.Addition
import PackageIndex.Proofs.Workspace.Race
import PackageIndex.Proofs.Workspace.Declared
import PackageIndex.Proofs.CommandLine.Printing
import PackageIndex.Proofs.CommandLine.Document
import PackageIndex.Proofs.Source
import PackageIndex.Proofs.Source.Search
import PackageIndex.Proofs.Php.Outline
