import LiveBundle.Text.Lines
import LiveBundle.Text.Escaped
import LiveBundle.Text.Quantity
import LiveBundle.Decimal.Scientific
import LiveBundle.Digest.Sha256
import LiveBundle.Dict
import LiveBundle.Path.Relative
import LiveBundle.Specifier
import LiveBundle.Specifier.Package
import LiveBundle.Bundle.Error
import LiveBundle.Json.Basic
import LiveBundle.Json.Reader
import LiveBundle.Registry.Contract
import LiveBundle.Bundle.Link
import LiveBundle.Component.Compile
import LiveBundle.Component.Preprocess
import LiveBundle.Web.Url
import LiveBundle.Config.Contract
import LiveBundle.Worker
import LiveBundle.Cli.Memory
import LiveBundle.Cli.Run
import LiveBundle.Style.Compile
import LiveBundle.Main
import LiveBundle.Proofs.Pass.ClosedGraph
import LiveBundle.Proofs.Pass.Ends
import LiveBundle.Proofs.Placeholder
import LiveBundle.Proofs.Session.Origin
import LiveBundle.Proofs.Worker.Protocol
import LiveBundle.Proofs.Pass.Stylesheet
import LiveBundle.Proofs.Pass.Served
import LiveBundle.Proofs.Pass.FailureTrail
import LiveBundle.Proofs.Session.Keeping
import LiveBundle.Proofs.FactoryNames
import LiveBundle.Proofs.Spliced
import LiveBundle.Proofs.ExportHeader
import LiveBundle.Proofs.RegistryText
import LiveBundle.Proofs.RegistryRuns
import LiveBundle.Proofs.ImportBindings
import LiveBundle.Proofs.Removed
import LiveBundle.Proofs.LibraryIndex
import LiveBundle.Proofs.FileImports
import LiveBundle.Proofs.Pass.Entry
import LiveBundle.Proofs.Session.EntryPoints
import LiveBundle.Proofs.Component.Culprit
import LiveBundle.Proofs.Component.Scopes
import LiveBundle.Proofs.Component.Props
import LiveBundle.Proofs.Component.Untouched
import LiveBundle.Proofs.Pass.Pasted
import LiveBundle.Proofs.Component.Blockwise
import LiveBundle.Proofs.Component.Scoped
import LiveBundle.Proofs.Style.Comments
import LiveBundle.Proofs.Style.Variables
import LiveBundle.Proofs.Style.Sequential
import LiveBundle.Proofs.DataUri
import LiveBundle.Proofs.LinkedIds
import LiveBundle.Proofs.Registry.Lookup
import LiveBundle.Proofs.Registry.Entry
import LiveBundle.Proofs.Registry.Scan
import LiveBundle.Proofs.Dependencies
import LiveBundle.Proofs.Config.Accepted
