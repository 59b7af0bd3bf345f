import OperatorConfig.Cluster.Access
import OperatorConfig.Cluster.Container
import OperatorConfig.Cluster.Definition
import OperatorConfig.Cluster.Exchange
import OperatorConfig.Cluster.Form
import OperatorConfig.Cluster.Metadata
import OperatorConfig.Cluster.Object
import OperatorConfig.Cluster.Reply
import OperatorConfig.Cluster.Request
import OperatorConfig.Cluster.Secret
import OperatorConfig.CommandLine.Argument
import OperatorConfig.CommandLine.Help
import OperatorConfig.CommandLine.Parameter
import OperatorConfig.CommandLine.Program
import OperatorConfig.CommandLine.Run
import OperatorConfig.Decimal.Double
import OperatorConfig.Decimal.Shortest
import OperatorConfig.Failure
import OperatorConfig.Inquiry
import OperatorConfig.Json.Basic
import OperatorConfig.Json.Changes
import OperatorConfig.Json.Fault
import OperatorConfig.Json.Node
import OperatorConfig.Json.Number
import OperatorConfig.Json.Printer
import OperatorConfig.Json.Reading
import OperatorConfig.Json.Token
import OperatorConfig.Log.Event
import OperatorConfig.Log.Line
import OperatorConfig.Log.Record
import OperatorConfig.Main
import OperatorConfig.Operator
import OperatorConfig.Postgres.Session
import OperatorConfig.Postgres.Version
import OperatorConfig.Question
import OperatorConfig.Resolution.Resolve
import OperatorConfig.Resolution.Route
import OperatorConfig.Resolution.Status
import OperatorConfig.Resolution.StatusReading
import OperatorConfig.Schema.Decode
import OperatorConfig.Schema.Encode
import OperatorConfig.Schema.Merge
import OperatorConfig.Schema.Mismatch
import OperatorConfig.Schema.Read
import OperatorConfig.Schema.Shape
import OperatorConfig.Secret.Bundle
import OperatorConfig.Secret.Field
import OperatorConfig.Secret.Generation
import OperatorConfig.Secret.Params
import OperatorConfig.Secret.Words
import OperatorConfig.Session
import OperatorConfig.Settings.Addon
import OperatorConfig.Settings.Environment
import OperatorConfig.Settings.External
import OperatorConfig.Settings.Loading
import OperatorConfig.Settings.Overrides
import OperatorConfig.Settings.Redaction
import OperatorConfig.Settings.Tree
import OperatorConfig.Table
import OperatorConfig.Text.Base64
import OperatorConfig.Text.Blank
import OperatorConfig.Text.CodeRun
import OperatorConfig.Text.Composition
import OperatorConfig.Text.Digit
import OperatorConfig.Text.Duration
import OperatorConfig.Text.Lines
import OperatorConfig.Text.Pattern
import OperatorConfig.Text.Percent
import OperatorConfig.Text.Quoted
import OperatorConfig.Text.Range
import OperatorConfig.Text.Unprintable
import OperatorConfig.Text.Utf8
import OperatorConfig.Upgrade.Check
import OperatorConfig.Upgrade.Decision
import OperatorConfig.Url.Address
import OperatorConfig.Url.Basic
import OperatorConfig.Url.Domain
import OperatorConfig.Url.Domain.Direction
import OperatorConfig.Url.Domain.Joining
import OperatorConfig.Url.Domain.Mapping
import OperatorConfig.Url.Domain.Punycode
import OperatorConfig.Url.Path
import OperatorConfig.Url.Reading
import OperatorConfig.Yaml.Block
import OperatorConfig.Yaml.Character
import OperatorConfig.Yaml.Fault
import OperatorConfig.Yaml.Folding
import OperatorConfig.Yaml.Grammar
import OperatorConfig.Yaml.Node
import OperatorConfig.Yaml.Plain
import OperatorConfig.Yaml.Printer
import OperatorConfig.Yaml.Property
import OperatorConfig.Yaml.Quotation
import OperatorConfig.Yaml.Reading
import OperatorConfig.Yaml.Resolution
import OperatorConfig.Yaml.Style
import OperatorConfig.Yaml.Token
import OperatorConfig.Yaml.Tokens
import OperatorConfig.Yaml.Value
import OperatorConfig.Proofs.Cluster.Secret
import OperatorConfig.Proofs.Cluster.Specification
import OperatorConfig.Proofs.CommandLine.Documents
import OperatorConfig.Proofs.Inquiry
import OperatorConfig.Proofs.Json.Canonical
import OperatorConfig.Proofs.Json.Lexemes
import OperatorConfig.Proofs.Json.Patch
import OperatorConfig.Proofs.Json.Printed
import OperatorConfig.Proofs.Json.Tree
import OperatorConfig.Proofs.Postgres.Banner
import OperatorConfig.Proofs.Postgres.Scan
import OperatorConfig.Proofs.Postgres.Spelling
import OperatorConfig.Proofs.Resolution.Cascade
import OperatorConfig.Proofs.Resolution.Concealment
import OperatorConfig.Proofs.Resolution.Ending
import OperatorConfig.Proofs.Resolution.Layouts
import OperatorConfig.Proofs.Resolution.Outcome
import OperatorConfig.Proofs.Resolution.Passes
import OperatorConfig.Proofs.Resolution.Reports
import OperatorConfig.Proofs.Resolution.Secrets
import OperatorConfig.Proofs.Resolution.Status
import OperatorConfig.Proofs.Resolution.StatusReading
import OperatorConfig.Proofs.Schema.Canonical
import OperatorConfig.Proofs.Schema.Grammar
import OperatorConfig.Proofs.Schema.Leaf
import OperatorConfig.Proofs.Schema.Members
import OperatorConfig.Proofs.Schema.Merge
import OperatorConfig.Proofs.Schema.Overlay
import OperatorConfig.Proofs.Schema.RoundTrip
import OperatorConfig.Proofs.Schema.Streaming
import OperatorConfig.Proofs.Schema.Written
import OperatorConfig.Proofs.Secret.Params
import OperatorConfig.Proofs.Secret.Provision
import OperatorConfig.Proofs.Secret.Reading
import OperatorConfig.Proofs.Secret.Rendering
import OperatorConfig.Proofs.Secret.Slots
import OperatorConfig.Proofs.Secret.Spending
import OperatorConfig.Proofs.Secret.Uniformity
import OperatorConfig.Proofs.Session.Confinement
import OperatorConfig.Proofs.Session.Order
import OperatorConfig.Proofs.Session.Stages
import OperatorConfig.Proofs.Session.Turns
import OperatorConfig.Proofs.Settings.Acceptance
import OperatorConfig.Proofs.Settings.Connection
import OperatorConfig.Proofs.Settings.Environment
import OperatorConfig.Proofs.Settings.External
import OperatorConfig.Proofs.Settings.Growth
import OperatorConfig.Proofs.Settings.Loading
import OperatorConfig.Proofs.Settings.Merging
import OperatorConfig.Proofs.Settings.Overrides
import OperatorConfig.Proofs.Settings.RoundTrip
import OperatorConfig.Proofs.Settings.Stages
import OperatorConfig.Proofs.Success
import OperatorConfig.Proofs.Table
import OperatorConfig.Proofs.Text.Lines
import OperatorConfig.Proofs.Text.Parts
import OperatorConfig.Proofs.Text.Pattern
import OperatorConfig.Proofs.Text.Utf8
import OperatorConfig.Proofs.Upgrade.Course
import OperatorConfig.Proofs.Upgrade.Decision
import OperatorConfig.Proofs.Upgrade.UpToDate
import OperatorConfig.Proofs.Url.Apart
import OperatorConfig.Proofs.Url.Characters
import OperatorConfig.Proofs.Url.Legible
import OperatorConfig.Proofs.Url.Path
