import RelyingParty.AssertingParty.Basic
import RelyingParty.AssertingParty.Builder
import RelyingParty.Binding
import RelyingParty.CommandLine
import RelyingParty.ConfigurationError
import RelyingParty.Credential.Basic
import RelyingParty.Credential.Definition
import RelyingParty.Credential.Selection
import RelyingParty.Credential.Set
import RelyingParty.Decimal.Binary64
import RelyingParty.Decimal.Shortest
import RelyingParty.Description
import RelyingParty.Digest.Base64Url
import RelyingParty.Digest.Sha256
import RelyingParty.Document
import RelyingParty.Document.Reader
import RelyingParty.Json.Parser
import RelyingParty.Json.Printer
import RelyingParty.Log.Event
import RelyingParty.Log.Filter
import RelyingParty.Log.Level
import RelyingParty.Log.Traced
import RelyingParty.Main
import RelyingParty.Proofs.Check
import RelyingParty.Proofs.CommandLine
import RelyingParty.Proofs.Credential.Constructors
import RelyingParty.Proofs.Credential.History
import RelyingParty.Proofs.Credential.KeyRenaming
import RelyingParty.Proofs.Credential.Set
import RelyingParty.Proofs.Document.Rearrangement
import RelyingParty.Proofs.Json.RoundTrip
import RelyingParty.Proofs.Registration.Bucket
import RelyingParty.Proofs.Registration.Derivation
import RelyingParty.Proofs.Registration.FlatCopy
import RelyingParty.Proofs.Registration.FlatGrowth
import RelyingParty.Proofs.Registration.FlatRoute
import RelyingParty.Proofs.Registration.KeyRenaming
import RelyingParty.Proofs.Registration.Outcome
import RelyingParty.Proofs.Registration.Run
import RelyingParty.Proofs.Registration.Soundness
import RelyingParty.Proofs.Registration.Trace
import RelyingParty.Proofs.Registration.Writes
import RelyingParty.Proofs.Report
import RelyingParty.Proofs.Settings.Batch
import RelyingParty.Proofs.Settings.Dependence
import RelyingParty.Proofs.Settings.Layout
import RelyingParty.Proofs.Settings.Migration
import RelyingParty.Proofs.Settings.Outcome
import RelyingParty.Proofs.Settings.Precedence
import RelyingParty.Proofs.Settings.Resolution
import RelyingParty.Proofs.Specimen
import RelyingParty.Registration.Basic
import RelyingParty.Registration.Builder
import RelyingParty.Requirement
import RelyingParty.Sample
import RelyingParty.Session.AssertingParty
import RelyingParty.Session.CredentialSet
import RelyingParty.Session.Registration
import RelyingParty.Session.Settings
import RelyingParty.Settings.Basic
import RelyingParty.Settings.Loading
import RelyingParty.Settings.Reader
import RelyingParty.Settings.Resolution
import RelyingParty.Settings.Sources
import RelyingParty.Settings.Writer
import RelyingParty.Summary
import RelyingParty.Text.Blank
import RelyingParty.Text.CodeRange
import RelyingParty.Text.Contains
import RelyingParty.Text.DefaultIgnorable
import RelyingParty.Text.GraphemeExtend
import RelyingParty.Text.Lines
import RelyingParty.Text.Quoted
import RelyingParty.Text.Record
import RelyingParty.Text.Unprintable
import RelyingParty.Toml.Item
import RelyingParty.Toml.Lexeme
import RelyingParty.Toml.Number
import RelyingParty.Toml.Section
import RelyingParty.Toml.Tree
import RelyingParty.Usage
import RelyingParty.World.Basic
import RelyingParty.World.Snapshot
import RelyingParty.World.Tree
import RelyingParty.Proofs.Credential.Outcome
import RelyingParty.Proofs.Credential.Sorting
import RelyingParty.Proofs.Settings.Selection
import RelyingParty.Proofs.Log.Threshold
import RelyingParty.Proofs.Digest.Base64Url
import RelyingParty.Proofs.Summary
import RelyingParty.Proofs.Credential.Bulk
import RelyingParty.Proofs.Log.Naming
import RelyingParty.Proofs.Document.FieldEdit
import RelyingParty.Proofs.Settings.LevelText
import RelyingParty.Proofs.LevelInForce
