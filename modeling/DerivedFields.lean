import DerivedFields.Binary64.Basic
import DerivedFields.Binary64.Shortest
import DerivedFields.Calendar.Date
import DerivedFields.Calendar.DateTime
import DerivedFields.Calendar.Field
import DerivedFields.Calendar.Iso
import DerivedFields.Calendar.Mask
import DerivedFields.Calendar.Names
import DerivedFields.Calendar.Parts
import DerivedFields.Command.Check
import DerivedFields.Command.Error
import DerivedFields.Command.Line
import DerivedFields.Command.Outcome
import DerivedFields.Command.Pages
import DerivedFields.Command.Reference
import DerivedFields.Command.Run
import DerivedFields.Decimal.Arithmetic
import DerivedFields.Decimal.Basic
import DerivedFields.Decimal.Literal
import DerivedFields.Decimal.Remainder
import DerivedFields.Decimal.Rounding
import DerivedFields.Document.Basic
import DerivedFields.Document.Format
import DerivedFields.Document.JsonFields
import DerivedFields.Document.XmlFields
import DerivedFields.Evaluation
import DerivedFields.Fault
import DerivedFields.Files.Fault
import DerivedFields.Files.Path
import DerivedFields.Files.Tables
import DerivedFields.Files.Tree
import DerivedFields.Function.Arguments
import DerivedFields.Function.Arity
import DerivedFields.Function.Basic
import DerivedFields.Function.Builtin
import DerivedFields.Function.Dates
import DerivedFields.Function.Formats
import DerivedFields.Function.Numbers
import DerivedFields.Function.Registry
import DerivedFields.Function.Strings
import DerivedFields.Json.Basic
import DerivedFields.Json.Number
import DerivedFields.Json.Reader
import DerivedFields.Json.Record
import DerivedFields.Json.Writer
import DerivedFields.Json.Written
import DerivedFields.Main
import DerivedFields.Number.Mask
import DerivedFields.Number.Operations
import DerivedFields.Number.Words
import DerivedFields.Operators
import DerivedFields.Path
import DerivedFields.Pipeline.Basic
import DerivedFields.Pipeline.Definition
import DerivedFields.Pipeline.Run
import DerivedFields.Pipeline.Sink
import DerivedFields.Proofs.Binary64.Rounding
import DerivedFields.Proofs.Binary64.Shortest
import DerivedFields.Proofs.Calendar.DayNumbers
import DerivedFields.Proofs.Calendar.Detection
import DerivedFields.Proofs.Calendar.Durations
import DerivedFields.Proofs.Calendar.FixedFields
import DerivedFields.Proofs.Calendar.FixedMasks
import DerivedFields.Proofs.Calendar.Intervals
import DerivedFields.Proofs.Calendar.Iso
import DerivedFields.Proofs.Calendar.KnownParts
import DerivedFields.Proofs.Calendar.MarchYears
import DerivedFields.Proofs.Calendar.Parts
import DerivedFields.Proofs.Calendar.QuotedText
import DerivedFields.Proofs.Calendar.RoundTrip
import DerivedFields.Proofs.Calendar.WrittenFields
import DerivedFields.Proofs.Command.RunFiles
import DerivedFields.Proofs.Decimal.Normal
import DerivedFields.Proofs.Decimal.Quotient
import DerivedFields.Proofs.Decimal.Rounding
import DerivedFields.Proofs.Decimal.Scientific
import DerivedFields.Proofs.Decimal.Spelling
import DerivedFields.Proofs.Decimal.TwiceRounded
import DerivedFields.Proofs.Definitions
import DerivedFields.Proofs.Document.ChildOrder
import DerivedFields.Proofs.Document.Children
import DerivedFields.Proofs.Document.Frame
import DerivedFields.Proofs.Document.IntegerLiterals
import DerivedFields.Proofs.Document.MemberOrder
import DerivedFields.Proofs.Document.Members
import DerivedFields.Proofs.Document.Order
import DerivedFields.Proofs.Document.Overwriting
import DerivedFields.Proofs.Document.PathText
import DerivedFields.Proofs.Document.Places
import DerivedFields.Proofs.Document.Refusal
import DerivedFields.Proofs.Document.Rewriting
import DerivedFields.Proofs.Document.RoundTrip
import DerivedFields.Proofs.Document.Target
import DerivedFields.Proofs.Document.XmlRoundTrip
import DerivedFields.Proofs.Entries
import DerivedFields.Proofs.Evaluation.Arithmetic
import DerivedFields.Proofs.Evaluation.Discipline
import DerivedFields.Proofs.Evaluation.History
import DerivedFields.Proofs.Evaluation.Isolation
import DerivedFields.Proofs.Evaluation.Lookups
import DerivedFields.Proofs.Evaluation.Parametricity
import DerivedFields.Proofs.Evaluation.Recovery
import DerivedFields.Proofs.Evaluation.Requests
import DerivedFields.Proofs.Evaluation.SelfReference
import DerivedFields.Proofs.Files.Locations
import DerivedFields.Proofs.Files.Snapshots
import DerivedFields.Proofs.Function.ArgumentCounts
import DerivedFields.Proofs.Function.Denotation
import DerivedFields.Proofs.Function.Listing
import DerivedFields.Proofs.Function.OutOfRange
import DerivedFields.Proofs.Function.Positions
import DerivedFields.Proofs.Function.Regular
import DerivedFields.Proofs.Function.Searching
import DerivedFields.Proofs.Json.Grammar
import DerivedFields.Proofs.Json.Integers
import DerivedFields.Proofs.Json.Layout
import DerivedFields.Proofs.Json.Lexemes
import DerivedFields.Proofs.Json.Literals
import DerivedFields.Proofs.Json.Numbers
import DerivedFields.Proofs.Json.Parts
import DerivedFields.Proofs.Json.Places
import DerivedFields.Proofs.Json.Reading
import DerivedFields.Proofs.Json.RoundTrip
import DerivedFields.Proofs.Number.Division
import DerivedFields.Proofs.Number.FixedWidth
import DerivedFields.Proofs.Number.MaskBody
import DerivedFields.Proofs.Number.Masked
import DerivedFields.Proofs.Number.Modulus
import DerivedFields.Proofs.Number.Numeral
import DerivedFields.Proofs.Number.PhoneMask
import DerivedFields.Proofs.Number.Quoted
import DerivedFields.Proofs.Number.Words
import DerivedFields.Proofs.Number.WrittenZero
import DerivedFields.Proofs.Pipeline.Course
import DerivedFields.Proofs.Pipeline.Effect
import DerivedFields.Proofs.Pipeline.Exchange
import DerivedFields.Proofs.Pipeline.LastPoints
import DerivedFields.Proofs.Pipeline.Neighbours
import DerivedFields.Proofs.Pipeline.Points
import DerivedFields.Proofs.Pipeline.Promotion
import DerivedFields.Proofs.Pipeline.Simulation
import DerivedFields.Proofs.Pipeline.Stepping
import DerivedFields.Proofs.Pipeline.Telling
import DerivedFields.Proofs.Pipeline.Trail
import DerivedFields.Proofs.Results
import DerivedFields.Proofs.Script.Completeness
import DerivedFields.Proofs.Script.Concatenation
import DerivedFields.Proofs.Script.Entities
import DerivedFields.Proofs.Script.FieldPaths
import DerivedFields.Proofs.Script.Grammar
import DerivedFields.Proofs.Script.Quotients
import DerivedFields.Proofs.Script.Reading
import DerivedFields.Proofs.Script.Scanning
import DerivedFields.Proofs.Script.Soundness
import DerivedFields.Proofs.Script.Spelling
import DerivedFields.Proofs.Stateful
import DerivedFields.Proofs.Table.Agreement
import DerivedFields.Proofs.Table.Asking
import DerivedFields.Proofs.Table.ConfigLayout
import DerivedFields.Proofs.Table.LinearSearch
import DerivedFields.Proofs.Table.WrittenCells
import DerivedFields.Proofs.Text.Cuts
import DerivedFields.Proofs.Text.Enclosed
import DerivedFields.Proofs.Text.Lined
import DerivedFields.Proofs.Text.Occurrences
import DerivedFields.Proofs.WrittenValues
import DerivedFields.Proofs.Xml.Joining
import DerivedFields.Proofs.Xml.Lexemes
import DerivedFields.Proofs.Xml.Parts
import DerivedFields.Proofs.Xml.Reading
import DerivedFields.Proofs.Xml.Settling
import DerivedFields.Proofs.Xml.Soundness
import DerivedFields.RunConfig
import DerivedFields.Scope
import DerivedFields.Script.Entity
import DerivedFields.Script.Expr
import DerivedFields.Script.Lexer
import DerivedFields.Script.Parser
import DerivedFields.Script.Token
import DerivedFields.Settings
import DerivedFields.Table.Basic
import DerivedFields.Table.Cache
import DerivedFields.Table.Config
import DerivedFields.Text.Alphabetic
import DerivedFields.Text.Blank
import DerivedFields.Text.Case
import DerivedFields.Text.CaseTable
import DerivedFields.Text.Cased
import DerivedFields.Text.CharRange
import DerivedFields.Text.Digit
import DerivedFields.Text.Letter
import DerivedFields.Text.Position
import DerivedFields.Text.Search
import DerivedFields.Value
import DerivedFields.Xml.Basic
import DerivedFields.Xml.Escape
import DerivedFields.Xml.Markup
import DerivedFields.Xml.Reader
import DerivedFields.Xml.Writer
