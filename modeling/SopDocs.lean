import SopDocs.Calendar
import SopDocs.Charter
import SopDocs.CommandLine.Invocation
import SopDocs.CommandLine.Reading
import SopDocs.CommandLine.Run
import SopDocs.CommandLine.Setting
import SopDocs.Config
import SopDocs.Config.Discovery
import SopDocs.Config.Reader
import SopDocs.Config.Schema
import SopDocs.Conventions
import SopDocs.Decimal.Binary
import SopDocs.Decimal.Shortest
import SopDocs.Failure
import SopDocs.Files.Basic
import SopDocs.Files.Change
import SopDocs.Files.Finder
import SopDocs.Glob
import SopDocs.Glossary
import SopDocs.History
import SopDocs.Index.Build
import SopDocs.Index.Comparison
import SopDocs.Index.Entry
import SopDocs.Index.Render
import SopDocs.Index.Table
import SopDocs.Json.Fault
import SopDocs.Json.Number
import SopDocs.Json.Reader
import SopDocs.Json.Record
import SopDocs.Json.Value
import SopDocs.Json.Writer
import SopDocs.Lint.Context
import SopDocs.Lint.DocumentHistory
import SopDocs.Lint.FileName
import SopDocs.Lint.Images
import SopDocs.Lint.MetadataTable
import SopDocs.Lint.Problem
import SopDocs.Lint.References
import SopDocs.Lint.Report
import SopDocs.Lint.Roles
import SopDocs.Lint.Rule
import SopDocs.Lint.Run
import SopDocs.Lint.Sections
import SopDocs.Lint.Steps
import SopDocs.Lint.Terms
import SopDocs.Lint.Title
import SopDocs.Main
import SopDocs.Markdown.Autolink
import SopDocs.Markdown.Block
import SopDocs.Markdown.Document
import SopDocs.Markdown.EntityTable
import SopDocs.Markdown.Escape
import SopDocs.Markdown.Flow
import SopDocs.Markdown.Html
import SopDocs.Markdown.Inline
import SopDocs.Markdown.Leaf
import SopDocs.Markdown.Phrase
import SopDocs.Markdown.Source
import SopDocs.Markdown.Syntax
import SopDocs.Markdown.TableRow
import SopDocs.Markdown.Target
import SopDocs.Metadata
import SopDocs.Path
import SopDocs.Procedure
import SopDocs.Reference
import SopDocs.Review.Reminder
import SopDocs.Review.Report
import SopDocs.Review.Run
import SopDocs.Review.Tracker
import SopDocs.Sorted
import SopDocs.Text.Blank
import SopDocs.Text.Case
import SopDocs.Text.CaseTable
import SopDocs.Text.CodePoints
import SopDocs.Text.Composition
import SopDocs.Text.CompositionTable
import SopDocs.Text.PrintTable
import SopDocs.Text.PunctuationTable
import SopDocs.Text.Quoted
import SopDocs.Text.Search
import SopDocs.Text.Slice
import SopDocs.Text.Utf8
import SopDocs.Text.Word
import SopDocs.Text.WordTable
import SopDocs.Tree.Node
import SopDocs.Tree.Section
import SopDocs.Tree.Table
import SopDocs.Version
import SopDocs.Web.Address
import SopDocs.Web.Domain
import SopDocs.Web.DomainTable
import SopDocs.Web.Exchange
import SopDocs.Web.Label
import SopDocs.Web.LabelTable
import SopDocs.Web.LinkProbe
import SopDocs.Web.Percent
import SopDocs.Web.Punycode
import SopDocs.Web.Status
import SopDocs.Web.Url
import SopDocs.Proofs.Index.CleanDocument
import SopDocs.Proofs.Charter
import SopDocs.Proofs.Lint.Independence
import SopDocs.Proofs.Index.CellSource
import SopDocs.Proofs.Index.Comparison
import SopDocs.Proofs.Index.RoundTrip
import SopDocs.Proofs.Calendar
import SopDocs.Proofs.Lint.HistoryOrder
import SopDocs.Proofs.Review.NewestDate
import SopDocs.Proofs.Review.ShownDate
import SopDocs.Proofs.Lint.Steps
import SopDocs.Proofs.Index.Difference
import SopDocs.Proofs.Index.Coverage
import SopDocs.Proofs.Review.Reminder
import SopDocs.Proofs.Review.Attribution
import SopDocs.Proofs.Review.Run
import SopDocs.Proofs.Review.InTurn
import SopDocs.Proofs.Lint.RuleOrder
import SopDocs.Proofs.Lint.Origin
import SopDocs.Proofs.Lint.Duplicates
import SopDocs.Proofs.CharterReads
import SopDocs.Proofs.Path
import SopDocs.Proofs.Files.Place
import SopDocs.Proofs.Files.Collect
import SopDocs.Proofs.Naming
import SopDocs.Proofs.Metadata
import SopDocs.Proofs.Lint.MetadataTable
import SopDocs.Proofs.VersionOrder
import SopDocs.Proofs.VersionText
import SopDocs.Proofs.Lint.StepBreaks
import SopDocs.Proofs.Lint.Spelling
import SopDocs.Proofs.Lint.InstanceOrder
import SopDocs.Proofs.Tree.Section
import SopDocs.Proofs.Lint.Sections
import SopDocs.Proofs.Tree.Table
import SopDocs.Proofs.Glossary
import SopDocs.Proofs.Lint.Terms
import SopDocs.Proofs.Text.Word
import SopDocs.Proofs.Lint.Acronyms
import SopDocs.Proofs.Lint.References
import SopDocs.Proofs.Lint.Title
import SopDocs.Proofs.Markdown.Definitions
import SopDocs.Proofs.Index.DocumentLink
import SopDocs.Proofs.Files.Wanted
import SopDocs.Proofs.Json.Unique
import SopDocs.Proofs.Json.Record
import SopDocs.Proofs.Exchange
import SopDocs.Proofs.Review.Entry
import SopDocs.Proofs.Review.Creation
import SopDocs.Proofs.Review.Listing
import SopDocs.Proofs.Config.Reading
import SopDocs.Proofs.Index.TableShape
import SopDocs.Proofs.Csv
import SopDocs.Proofs.Index.CsvText
import SopDocs.Proofs.Index.BuildOrder
import SopDocs.Proofs.Reference
import SopDocs.Proofs.CalendarDays
import SopDocs.Proofs.Review.Staleness
import SopDocs.Proofs.Occurrences
import SopDocs.Proofs.Text.Folding
import SopDocs.Proofs.Tree.Nesting
import SopDocs.Proofs.Metadata.Insertions
import SopDocs.Proofs.Index.Repeats
import SopDocs.Proofs.Lint.Roles
