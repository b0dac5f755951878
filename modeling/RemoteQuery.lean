import RemoteQuery.Calendar.Date
import RemoteQuery.Calendar.Timestamp
import RemoteQuery.Calls.DateArithmetic
import RemoteQuery.Calls.Form
import RemoteQuery.Calls.Text
import RemoteQuery.Capability.JsonForm
import RemoteQuery.Capability.Needs
import RemoteQuery.Capability.Set
import RemoteQuery.Capability.Token
import RemoteQuery.Dialect.Athena
import RemoteQuery.Dialect.Db2
import RemoteQuery.Dialect.Generic
import RemoteQuery.Dialect.Hive
import RemoteQuery.Dialect.Impala
import RemoteQuery.Dialect.MySql
import RemoteQuery.Dialect.Name
import RemoteQuery.Dialect.Native
import RemoteQuery.Dialect.Oracle
import RemoteQuery.Dialect.PostgreSql
import RemoteQuery.Dialect.Redshift
import RemoteQuery.Dialect.Registry
import RemoteQuery.Dialect.SqlServer
import RemoteQuery.Dialect.Sybase
import RemoteQuery.Dialect.Teradata
import RemoteQuery.Json.Reader
import RemoteQuery.Json.Value
import RemoteQuery.Json.Writer
import RemoteQuery.Number.Decimal
import RemoteQuery.Number.Double
import RemoteQuery.Number.Double.Shortest
import RemoteQuery.Proofs.Expression
import RemoteQuery.Proofs.Rendering
import RemoteQuery.Properties.Basic
import RemoteQuery.Properties.DecimalOverride
import RemoteQuery.Properties.Form
import RemoteQuery.Properties.SchemaNotes
import RemoteQuery.Query.Build
import RemoteQuery.Query.Expr
import RemoteQuery.Query.Function
import RemoteQuery.Query.JsonForm
import RemoteQuery.Query.Literal
import RemoteQuery.Query.Select
import RemoteQuery.Render.Error
import RemoteQuery.Render.Expr
import RemoteQuery.Render.OrderBy
import RemoteQuery.Render.Select
import RemoteQuery.Target.Basic
import RemoteQuery.Target.Identifier
import RemoteQuery.Target.NullSorting
import RemoteQuery.Target.Profile
import RemoteQuery.Target.RowLimiting
import RemoteQuery.Text.Ascii
import RemoteQuery.Text.Blank
import RemoteQuery.Text.Numeral
import RemoteQuery.Text.Quoted
import RemoteQuery.Toml.Reader
import RemoteQuery.Toml.Scalar
import RemoteQuery.Toml.Table
import RemoteQuery.Toml.Text
import RemoteQuery.Types.Canonical
import RemoteQuery.Types.JsonForm
import RemoteQuery.Types.Mapping
import RemoteQuery.Types.Remote
import RemoteQuery.Vocabulary
import RemoteQuery.Proofs.Faults
import RemoteQuery.Proofs.Needs
import RemoteQuery.Proofs.ExactNeeds
import RemoteQuery.Proofs.Promise
import RemoteQuery.Proofs.RowWindow
import RemoteQuery.Proofs.SelectListRules
import RemoteQuery.Proofs.NormalForm
import RemoteQuery.Proofs.Numerals
import RemoteQuery.Proofs.Reader
import RemoteQuery.Proofs.Reading
import RemoteQuery.Proofs.ReadingBack
import RemoteQuery.Proofs.Unambiguous
import RemoteQuery.Proofs.Lexing
import RemoteQuery.Proofs.Template
import RemoteQuery.Proofs.Surface
import RemoteQuery.Proofs.Forms
import RemoteQuery.Proofs.Templated
import RemoteQuery.Proofs.Assembly
import RemoteQuery.Proofs.DialectTemplates
import RemoteQuery.Proofs.NoInjection
import RemoteQuery.Proofs.Atomic
import RemoteQuery.Proofs.RowOrder
import RemoteQuery.Proofs.MappedTypes
import RemoteQuery.Proofs.JsonText
import RemoteQuery.Proofs.WrittenValues
import RemoteQuery.Proofs.JsonForms
import RemoteQuery.Proofs.JsonRoundTrip
import RemoteQuery.Proofs.DecimalFit
import RemoteQuery.Proofs.NumberTransport
import RemoteQuery.Proofs.StarList
import RemoteQuery.Proofs.Identifiers
import RemoteQuery.Proofs.TableNames
import RemoteQuery.Proofs.AggregateFlavours
import RemoteQuery.Proofs.Layout
import RemoteQuery.Proofs.QuotedInPlace
import RemoteQuery.Proofs.StatementReading
import RemoteQuery.Proofs.FirstCharacters
import RemoteQuery.Proofs.ArgumentsKept
import RemoteQuery.Proofs.NativeNames
import RemoteQuery.Proofs.PositionalKeys
import RemoteQuery.Proofs.BitwiseArithmetic
import RemoteQuery.Proofs.DecimalNotation
import RemoteQuery.Proofs.FoldedAmounts
import RemoteQuery.Proofs.Feasibility
import RemoteQuery.Proofs.Configuration
