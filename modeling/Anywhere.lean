import Anywhere.Text.Alphanumeric
import Anywhere.Text.Encoding
import Anywhere.Text.HexEscape
import Anywhere.Number.Shortest
import Anywhere.Number.Decimal
import Anywhere.Number.DoubleToDecimal
import Anywhere.Calendar.Reader
import Anywhere.Json.Parser
import Anywhere.Json.Printer
import Anywhere.Json.Record
import Anywhere.Fault
import Anywhere.Value
import Anywhere.Query.Builder
import Anywhere.Query.Traversal
import Anywhere.Query.Distinct
import Anywhere.Sql.Writer
import Anywhere.Query.Document
import Anywhere.Client.Conversion
import Anywhere.Column.Definition
import Anywhere.ConnectionString
import Anywhere.Schema.Change
import Anywhere.Schema.Catalog
import Anywhere.ResultSet
import Anywhere.Toml.Document
import Anywhere.Settings
import Anywhere.Execution
import Anywhere.Client.Interface
import Anywhere.Session.Schema
import Anywhere.Client.Script
import Anywhere.CommandLine.Run
import Anywhere.Main
import Anywhere.Proofs.Calls
import Anywhere.Proofs.Cleanup
import Anywhere.Proofs.Placeholders
import Anywhere.Proofs.Nesting
import Anywhere.Proofs.OutermostQueries
import Anywhere.Proofs.RowCap
import Anywhere.Proofs.Idempotence
import Anywhere.Proofs.Paging
import Anywhere.Proofs.Simulation
import Anywhere.Proofs.SessionRun
import Anywhere.Proofs.Fetching
import Anywhere.Proofs.Transactions
import Anywhere.Proofs.CharacterSets
import Anywhere.Proofs.Numerals
import Anywhere.Proofs.CalendarText
import Anywhere.Proofs.RoundTrip
import Anywhere.Proofs.Scanning
import Anywhere.Proofs.Payload
import Anywhere.Proofs.Quotation
import Anywhere.Proofs.Grammar
import Anywhere.Proofs.Predicates
import Anywhere.Proofs.Arithmetic
import Anywhere.Proofs.ZeroLimit
import Anywhere.Proofs.Contexts
import Anywhere.Proofs.Subqueries
import Anywhere.Proofs.Lifetimes
import Anywhere.Proofs.OpenTransactions
import Anywhere.Proofs.DeadConnections
import Anywhere.Proofs.Leaks
import Anywhere.Proofs.Connections
import Anywhere.Proofs.AffectedRows
import Anywhere.Proofs.ColumnTypes
import Anywhere.Proofs.ConnectionText
import Anywhere.Proofs.Passwords
import Anywhere.Proofs.SchemaChanges
import Anywhere.Proofs.Forks
import Anywhere.Proofs.LeadingWords
import Anywhere.Proofs.Transcripts
import Anywhere.Proofs.FirstFailures
import Anywhere.Proofs.Phases
import Anywhere.Proofs.Bindings
import Anywhere.Proofs.FetchedRows
import Anywhere.Proofs.Segments
import Anywhere.Proofs.Masking
import Anywhere.Proofs.TypeGrammar
import Anywhere.Proofs.Escapes
import Anywhere.Proofs.Sameness
import Anywhere.Proofs.Markers
import Anywhere.Proofs.SortKeys
import Anywhere.Proofs.TableCatalog
import Anywhere.Proofs.CatalogClients
import Anywhere.Proofs.ColumnRemoval
import Anywhere.Proofs.DeferredChecks
import Anywhere.Proofs.ColumnReferences
import Anywhere.Proofs.IndexFlags
import Anywhere.Proofs.SharedIndexNames
import Anywhere.Proofs.ExactNumbers
import Anywhere.Proofs.MalformedText
import Anywhere.Proofs.WrittenCaps
import Anywhere.Proofs.Templates
import Anywhere.Proofs.SchemaTexts
import Anywhere.Proofs.NameLookups
import Anywhere.Proofs.DefaultChanges
import Anywhere.Proofs.ColumnRenaming
import Anywhere.Proofs.WrittenQueries
import Anywhere.Proofs.TopNumbers
import Anywhere.Proofs.LargestLimit
