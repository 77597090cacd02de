import InjectionLab.Cli.Arguments
import InjectionLab.Cli.Program
import InjectionLab.Cli.Report
import InjectionLab.Cli.Script
import InjectionLab.Cli.Style
import InjectionLab.Config
import InjectionLab.Config.Load
import InjectionLab.Config.Text
import InjectionLab.Double
import InjectionLab.Environment
import InjectionLab.Execution
import InjectionLab.Files
import InjectionLab.Json.Basic
import InjectionLab.Json.Number
import InjectionLab.Json.Quoted
import InjectionLab.Json.Reader
import InjectionLab.Json.Record
import InjectionLab.Json.Writer
import InjectionLab.Main
import InjectionLab.Numeral
import InjectionLab.Predicate
import InjectionLab.Predicate.Document
import InjectionLab.Proofs.Effect
import InjectionLab.Proofs.Rounding
import InjectionLab.Proofs.Text.LetterCase
import InjectionLab.Proofs.Text.Grammar
import InjectionLab.Proofs.Text.Search
import InjectionLab.Row
import InjectionLab.Row.Document
import InjectionLab.Session
import InjectionLab.Statement.Clause
import InjectionLab.Statement.Kind
import InjectionLab.Statement.Literals
import InjectionLab.Statement.Trigger
import InjectionLab.Store
import InjectionLab.Text.CaseTable
import InjectionLab.Text.Class
import InjectionLab.Text.Lowercase
import InjectionLab.Text.Pattern
import InjectionLab.Text.Split
import InjectionLab.Text.Uppercase
import InjectionLab.Timestamp
import InjectionLab.Trace
import InjectionLab.Proofs.History
import InjectionLab.Proofs.LetterCase
import InjectionLab.Proofs.Override
import InjectionLab.Proofs.NumeralValue
import InjectionLab.Proofs.LiteralList
import InjectionLab.Proofs.Text.Lowercase
import InjectionLab.Proofs.Lookup
import InjectionLab.Proofs.Text.Mention
import InjectionLab.Proofs.InsertText
import InjectionLab.Proofs.UserRoundTrip
import InjectionLab.Proofs.OrderView
import InjectionLab.Proofs.ProductRouting
import InjectionLab.Proofs.Run
import InjectionLab.Proofs.Isolation
import InjectionLab.Proofs.Reordering
import InjectionLab.Proofs.Trace
import InjectionLab.Proofs.Json.Document
import InjectionLab.Proofs.Json.Canonical
import InjectionLab.Proofs.PredicateRoundTrip
import InjectionLab.Proofs.Json.Record
import InjectionLab.Proofs.Timestamp
import InjectionLab.Proofs.RowRoundTrip
import InjectionLab.Proofs.Files
import InjectionLab.Proofs.ConfigRoundTrip
import InjectionLab.Proofs.MachineReadable
import InjectionLab.Proofs.Text.Lines
import InjectionLab.Proofs.Reports
import InjectionLab.Proofs.ScriptTranscript
import InjectionLab.Proofs.StoredText
import InjectionLab.Proofs.RepeatedCalls
import InjectionLab.Proofs.Selection
import InjectionLab.Proofs.IdentifierLookup
import InjectionLab.Proofs.Text.Uppercase
import InjectionLab.Proofs.Text.Operator
import InjectionLab.Proofs.ProductConditions
import InjectionLab.Proofs.Conjunction
import InjectionLab.Proofs.PriceOrder
import InjectionLab.Proofs.PriceClause
import InjectionLab.Proofs.UserConditions
import InjectionLab.Proofs.IntegerRange
import InjectionLab.Proofs.Detection
import InjectionLab.Proofs.ConfigOverrides
import InjectionLab.Proofs.ConfigSources
import InjectionLab.Proofs.Text.Longest
import InjectionLab.Proofs.ClauseSearch
import InjectionLab.Proofs.OutputLines
