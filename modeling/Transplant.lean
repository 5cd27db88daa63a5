import Transplant.Casing
import Transplant.Config
import Transplant.Config.Decode
import Transplant.Date
import Transplant.FileCasing
import Transplant.Json.Decode
import Transplant.Json.Document
import Transplant.Json.Number
import Transplant.Json.Token
import Transplant.NameSet
import Transplant.Number.Binary64
import Transplant.Number.FloatStyle
import Transplant.Number.Shortest
import Transplant.Package
import Transplant.Path
import Transplant.Proofs.Path.Resolve
import Transplant.Proofs.Relocation.SameFile
import Transplant.Proofs.Source.Clean
import Transplant.Proofs.Source.Grammar
import Transplant.Proofs.Source.Inert
import Transplant.Proofs.Source.Lines
import Transplant.Proofs.Source.Rescan
import Transplant.Proofs.Source.Respecified
import Transplant.Proofs.Source.SameStatement
import Transplant.Proofs.Source.Written
import Transplant.Proofs.Transplantation.OnePass
import Transplant.Provenance
import Transplant.Provenance.Decode
import Transplant.Relocation
import Transplant.Source.Clause
import Transplant.Source.Document
import Transplant.Source.Reading
import Transplant.Source.Statement
import Transplant.Specifier
import Transplant.Text
import Transplant.Text.Escaped
import Transplant.Transplantation
import Transplant.Unicode.CaseMapping
import Transplant.Unicode.CodeRun
import Transplant.Unicode.Letter
import Transplant.Unicode.Visible
import Transplant.Unicode.WhiteSpace
import Transplant.Unicode.Word
import Transplant.Proofs.Date.RoundTrip
import Transplant.Proofs.Provenance.Header
import Transplant.Proofs.Provenance.RoundTrip
import Transplant.Proofs.Provenance.Replacement
import Transplant.Proofs.Package.FixedPoint
import Transplant.Proofs.FileCasing.KebabName
import Transplant.Proofs.FileCasing.Specifier
import Transplant.Proofs.FileCasing.Idempotence
import Transplant.Proofs.Provenance.Imports
import Transplant.Proofs.Provenance.Removal
import Transplant.Proofs.Transplantation.Packages
import Transplant.Proofs.Transplantation.FileName
import Transplant.Proofs.Path.Reduced
import Transplant.Proofs.Relocation.Canonical
import Transplant.Proofs.Source.Gaps
import Transplant.Proofs.Source.Lead
import Transplant.Proofs.Source.KeywordLine
import Transplant.Proofs.FileCasing.FirstStatement
import Transplant.Proofs.Json.Grammar
import Transplant.Proofs.Json.Record
import Transplant.Proofs.Config.RoundTrip
import Transplant.Proofs.Path.LastRun
import Transplant.Proofs.Path.Shortest
import Transplant.Proofs.Path.Spelling
import Transplant.Proofs.Package.Queries
import Transplant.Proofs.Package.TwoProjects
import Transplant.Proofs.Relocation.RootRelative
import Transplant.Proofs.FileCasing.Written
import Transplant.Proofs.FileCasing.Settled
import Transplant.Proofs.Relocation.Merging
import Transplant.Proofs.Casing.RoundTrip
import Transplant.Proofs.Provenance.Merging
import Transplant.Proofs.Casing.Lowercase
import Transplant.Proofs.Casing.Idempotence
import Transplant.Proofs.Casing.Hyphens
import Transplant.Proofs.Source.TypeOnly
