import TableClient.Catalogue
import TableClient.Config.Store
import TableClient.Log.Session
import TableClient.Query.Naming
import TableClient.Proofs.Calendar
import TableClient.Proofs.Calendar.Days
import TableClient.Proofs.Decimal.Numeral
import TableClient.Proofs.Decimal.Order
import TableClient.Proofs.Decimal.Canonical
import TableClient.Proofs.Query.Instants
import TableClient.Proofs.Query.Chronology
import TableClient.Proofs.Query.Check
import TableClient.Proofs.Query.Operand
import TableClient.Proofs.Query.Plan
import TableClient.Proofs.Query.Step
import TableClient.Proofs.Query.Atomicity
import TableClient.Proofs.Query.Conditions
import TableClient.Proofs.Query.RelativeDates
import TableClient.Proofs.Query.TokenForms
import TableClient.Proofs.Text.Reading
import TableClient.Proofs.Url.Path
import TableClient.Proofs.Keyed
import TableClient.Proofs.Json.Strings
import TableClient.Proofs.Json.RoundTrip
import TableClient.Proofs.Log.Writing
import TableClient.Proofs.Query.Decoding
import TableClient.Proofs.Query.Composition
import TableClient.Proofs.Client.Footprint
import TableClient.Proofs.Client.Operations
import TableClient.Proofs.Client.Addresses
import TableClient.Proofs.Client.Trace
import TableClient.Proofs.Client.Reports
import TableClient.Proofs.Client.Acceptance
import TableClient.Proofs.Client.Bodies
import TableClient.Proofs.Client.Counting
import TableClient.Proofs.Value.WellKeyed
import TableClient.Proofs.Config.Layers
import TableClient.Proofs.Config.Merging
import TableClient.Proofs.Config.MergeLaws
import TableClient.Proofs.Config.Precedence
import TableClient.Proofs.Config.Tolerance
import TableClient.Proofs.Config.Conversion
import TableClient.Proofs.Client.Queries
import TableClient.Proofs.Log.Routing
import TableClient.Proofs.Log.Lines
import TableClient.Proofs.Log.Blocks
import TableClient.Proofs.Session.FirstUse
import TableClient.Proofs.Config.Secrecy
import TableClient.Proofs.Session.Secrecy
import TableClient.Proofs.Client.Secrecy
import TableClient.Proofs.Client.Overrides
import TableClient.Proofs.Client.TextSettings
import TableClient.Proofs.Config.SetLaws
import TableClient.Proofs.Config.Store.EditLaws
import TableClient.Proofs.Config.Store.Isolation
import TableClient.Proofs.TableName
import TableClient.Proofs.Client.TableNames
import TableClient.Proofs.Url.Resolution
import TableClient.Proofs.Client.Confinement
import TableClient.Proofs.Url.Instance
import TableClient.Proofs.Client.Instances
import TableClient.Proofs.Session.Retries
import TableClient.Proofs.Binary64.Integral
import TableClient.Proofs.Binary64.Text
import TableClient.Proofs.Query.IntegralLiterals
import TableClient.Proofs.Query.Sequences
