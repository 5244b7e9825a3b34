import QueryFilter.Text.Blank
import QueryFilter.Text.Pieces
import QueryFilter.Text.CaseTable
import QueryFilter.Text.UnprintedTable
import QueryFilter.Text.Lowercase
import QueryFilter.Text.Quoted
import QueryFilter.Dict
import QueryFilter.Decimal.Integer
import QueryFilter.Binary64.Basic
import QueryFilter.Binary64.Literal
import QueryFilter.Binary64.Shortest
import QueryFilter.Binary64.Printer
import QueryFilter.Calendar.Date
import QueryFilter.Calendar.DateTime
import QueryFilter.Calendar.Pattern
import QueryFilter.Calendar.Internet
import QueryFilter.Calendar.Reading
import QueryFilter.Uuid
import QueryFilter.Json.Value
import QueryFilter.Json.Error
import QueryFilter.Json.Number
import QueryFilter.Json.Reader
import QueryFilter.Json.Guided
import QueryFilter.Json.Embedded
import QueryFilter.Json.Writer
import QueryFilter.Operator
import QueryFilter.SortDirection
import QueryFilter.Schema.FieldType
import QueryFilter.Schema.ColumnType
import QueryFilter.Schema.Entity
import QueryFilter.Schema.Concerts
import QueryFilter.Scalar
import QueryFilter.FilterKey
import QueryFilter.FilterValue
import QueryFilter.FilterMap
import QueryFilter.Report
import QueryFilter.Report.Json
import QueryFilter.FilterError
import QueryFilter.FilterMap.Json
import QueryFilter.FilterableFields
import QueryFilter.FilterConfig
import QueryFilter.FilterSettings
import QueryFilter.Query.Step
import QueryFilter.Query.Plan
import QueryFilter.Sql.Select
import QueryFilter.Sql.Token
import QueryFilter.Sql.Render
import QueryFilter.Resolution
import QueryFilter.Application
import QueryFilter.Validation
import QueryFilter.Applicator
import QueryFilter.Proofs.Except
import QueryFilter.Proofs.Resolution
import QueryFilter.Proofs.Walk
import QueryFilter.Proofs.Agreement
import QueryFilter.Proofs.IntegerText
import QueryFilter.Proofs.Typing
import QueryFilter.Proofs.Scope
import QueryFilter.Proofs.TableAliases
import QueryFilter.Proofs.Binding
import QueryFilter.Proofs.Replay
import QueryFilter.Proofs.Composition
import QueryFilter.Proofs.Restriction
import QueryFilter.Proofs.Document
import QueryFilter.Proofs.Diagnostics
import QueryFilter.Proofs.Truncation
import QueryFilter.Proofs.Reachability
import QueryFilter.Proofs.Pruning
import QueryFilter.Proofs.Reordering
import QueryFilter.Proofs.SameText
import QueryFilter.Proofs.UniqueReadability
import QueryFilter.Proofs.Privacy
import QueryFilter.Proofs.JsonReading
import QueryFilter.Proofs.JsonText
import QueryFilter.Proofs.Settling
import QueryFilter.Proofs.StrictReading
import QueryFilter.Proofs.RoundTrip
import QueryFilter.Proofs.Trimming
import QueryFilter.Proofs.Decoding
import QueryFilter.Proofs.OperatorFit
import QueryFilter.Proofs.CalendarText
import QueryFilter.Proofs.ScalarText
import QueryFilter.Proofs.Canonical
import QueryFilter.Proofs.JsonLists
import QueryFilter.Proofs.DayNumber
import QueryFilter.Proofs.FilterGrammar
import QueryFilter.Proofs.Readings
import QueryFilter.Proofs.Zones
import QueryFilter.Proofs.Identifiers
import QueryFilter.Proofs.KeyGrammar
import QueryFilter.Proofs.Leniency
import QueryFilter.Proofs.EmptyOperands
import QueryFilter.Proofs.AliasRecords
import QueryFilter.Proofs.JoinedEntities
import QueryFilter.Proofs.KeyChecks
import QueryFilter.Proofs.Declarations
import QueryFilter.Proofs.Configuration
import QueryFilter.Proofs.ReportViews
import QueryFilter.Proofs.TypeTags
