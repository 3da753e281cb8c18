import ModBuild.CommandLine.Log
import ModBuild.Digest.Algorithm
import ModBuild.Documents.Http
import ModBuild.Error.Report
import ModBuild.Files.Replace
import ModBuild.Main
import ModBuild.Project.Sample
import ModBuild.Registry.Operation
import ModBuild.Template.Format
import ModBuild.Toml.Reader
import ModBuild.Url.Address
import ModBuild.Version.Features
import ModBuild.Version.Manifest.Text
import ModBuild.Proofs.Template.Cut
import ModBuild.Proofs.Template.Pass
import ModBuild.Proofs.Template.Rescan
import ModBuild.Proofs.Files.Replace
import ModBuild.Proofs.Documents.Fetch
import ModBuild.Proofs.Documents.LastCopy
import ModBuild.Proofs.Documents.Offline
import ModBuild.Proofs.Registry.Memory
import ModBuild.Proofs.Template.Separator
import ModBuild.Proofs.Registry.Isolation
import ModBuild.Proofs.Registry.Failure
import ModBuild.Proofs.Registry.Requests
import ModBuild.Proofs.Registry.Stored
import ModBuild.Proofs.Registry.Reset
import ModBuild.Proofs.Template.Grammar
import ModBuild.Proofs.Template.Settled
import ModBuild.Proofs.Template.Segments
import ModBuild.Proofs.Template.Table
import ModBuild.Proofs.Template.Writes
import ModBuild.Proofs.Files.Path
import ModBuild.Proofs.Files.Remove
import ModBuild.Proofs.Project.Opened
import ModBuild.Proofs.CommandLine.Cache
import ModBuild.Proofs.Template.Chains
import ModBuild.Proofs.Template.Length
import ModBuild.Proofs.Template.Ending
import ModBuild.Proofs.Template.Sides
import ModBuild.Proofs.Template.Larger
import ModBuild.Proofs.Template.Similar
import ModBuild.Proofs.Template.Unresolved
import ModBuild.Proofs.Template.Growth
import ModBuild.Proofs.Files.Parents
import ModBuild.Proofs.CommandLine.Effects
import ModBuild.Proofs.Toml.Quoted
import ModBuild.Proofs.Toml.Scalar
import ModBuild.Proofs.Toml.Lines
import ModBuild.Proofs.Project.Settings
import ModBuild.Proofs.Json.Strings
import ModBuild.Proofs.Json.Numbers
import ModBuild.Proofs.Json.Skipped
import ModBuild.Proofs.Json.Record
import ModBuild.Proofs.Version.ManifestText
import ModBuild.Proofs.Error.Report
import ModBuild.Proofs.CommandLine.Resolve
import ModBuild.Proofs.Error.Suggestions
import ModBuild.Proofs.Template.Joined
import ModBuild.Proofs.Files.Atomic
import ModBuild.Proofs.Template.Escaped
import ModBuild.Proofs.Version.Features
import ModBuild.Proofs.Registry.Applied
import ModBuild.Proofs.Project.CacheRoot
import ModBuild.Proofs.Version.Equality
import ModBuild.Proofs.Digest.Spelling
import ModBuild.Proofs.Template.Spans
