import Phrasebook.Catalog.Basic
import Phrasebook.Catalog.Coverage
import Phrasebook.Catalog.File
import Phrasebook.Catalog.Merge
import Phrasebook.Catalog.Store
import Phrasebook.CharRef.Decode
import Phrasebook.CharRef.LowerAtoC
import Phrasebook.CharRef.LowerDtoG
import Phrasebook.CharRef.LowerHtoL
import Phrasebook.CharRef.LowerMtoO
import Phrasebook.CharRef.LowerPtoS
import Phrasebook.CharRef.LowerTtoZ
import Phrasebook.CharRef.UpperAtoL
import Phrasebook.CharRef.UpperMtoZ
import Phrasebook.Command.Arguments
import Phrasebook.Command.Basic
import Phrasebook.Command.Reach
import Phrasebook.Command.Run
import Phrasebook.Console.ColorTable
import Phrasebook.Console.Markup
import Phrasebook.Console.Message
import Phrasebook.Console.Style
import Phrasebook.Console.Table
import Phrasebook.Console.Terminal
import Phrasebook.Console.Wrap
import Phrasebook.Consolidation
import Phrasebook.Decimal.Binary64
import Phrasebook.Decimal.Rounding
import Phrasebook.Decimal.Text
import Phrasebook.Digest
import Phrasebook.Disk.Basic
import Phrasebook.Disk.Changes
import Phrasebook.Emoji.AtoB
import Phrasebook.Emoji.CtoE
import Phrasebook.Emoji.F
import Phrasebook.Emoji.GtoL
import Phrasebook.Emoji.M
import Phrasebook.Emoji.Named
import Phrasebook.Emoji.NtoP
import Phrasebook.Emoji.QtoS
import Phrasebook.Emoji.TtoV
import Phrasebook.Emoji.WtoZ
import Phrasebook.Entries
import Phrasebook.Event.Basic
import Phrasebook.Event.Line
import Phrasebook.Event.Log
import Phrasebook.Failure
import Phrasebook.Json.Limits
import Phrasebook.Json.Reader
import Phrasebook.Json.Shown
import Phrasebook.Json.Value
import Phrasebook.Json.Writer
import Phrasebook.Key
import Phrasebook.Locale.Basic
import Phrasebook.Locale.Lane
import Phrasebook.Locale.Program
import Phrasebook.Main
import Phrasebook.Path
import Phrasebook.Project
import Phrasebook.Proofs.Answers
import Phrasebook.Proofs.Ascents
import Phrasebook.Proofs.Assemblies
import Phrasebook.Proofs.Blanks
import Phrasebook.Proofs.Builds
import Phrasebook.Proofs.Catalogs
import Phrasebook.Proofs.CharRefs
import Phrasebook.Proofs.Commands
import Phrasebook.Proofs.Consolidations
import Phrasebook.Proofs.Cores
import Phrasebook.Proofs.Coverages
import Phrasebook.Proofs.Cuts
import Phrasebook.Proofs.Declarations
import Phrasebook.Proofs.Detours
import Phrasebook.Proofs.Disks
import Phrasebook.Proofs.Edits
import Phrasebook.Proofs.Entries
import Phrasebook.Proofs.EventLines
import Phrasebook.Proofs.Hygiene
import Phrasebook.Proofs.Imports
import Phrasebook.Proofs.JsonParts
import Phrasebook.Proofs.JsonText
import Phrasebook.Proofs.Keys
import Phrasebook.Proofs.Lanes
import Phrasebook.Proofs.Layouts
import Phrasebook.Proofs.Leaves
import Phrasebook.Proofs.Limits
import Phrasebook.Proofs.LineEnds
import Phrasebook.Proofs.Listings
import Phrasebook.Proofs.LiteralTexts
import Phrasebook.Proofs.Lookups
import Phrasebook.Proofs.Lowering
import Phrasebook.Proofs.Markups
import Phrasebook.Proofs.MergedEntries
import Phrasebook.Proofs.Merges
import Phrasebook.Proofs.Nearest
import Phrasebook.Proofs.Nesting
import Phrasebook.Proofs.Numerals
import Phrasebook.Proofs.Outcomes
import Phrasebook.Proofs.Outlines
import Phrasebook.Proofs.Places
import Phrasebook.Proofs.Printings
import Phrasebook.Proofs.ProjectScans
import Phrasebook.Proofs.Prologues
import Phrasebook.Proofs.Publications
import Phrasebook.Proofs.Readers
import Phrasebook.Proofs.Records
import Phrasebook.Proofs.Recoveries
import Phrasebook.Proofs.Remerges
import Phrasebook.Proofs.Repeats
import Phrasebook.Proofs.Replacements
import Phrasebook.Proofs.Reports
import Phrasebook.Proofs.Respellings
import Phrasebook.Proofs.Rewrites
import Phrasebook.Proofs.RewrittenTrees
import Phrasebook.Proofs.Roots
import Phrasebook.Proofs.Rules
import Phrasebook.Proofs.Scans
import Phrasebook.Proofs.Scopes
import Phrasebook.Proofs.SiblingPaths
import Phrasebook.Proofs.Sightings
import Phrasebook.Proofs.Sinks
import Phrasebook.Proofs.Splices
import Phrasebook.Proofs.Squeezing
import Phrasebook.Proofs.Stores
import Phrasebook.Proofs.StrictReading
import Phrasebook.Proofs.Tears
import Phrasebook.Proofs.TextGroups
import Phrasebook.Proofs.TornLines
import Phrasebook.Proofs.Traces
import Phrasebook.Proofs.Trivia
import Phrasebook.Proofs.Utf8
import Phrasebook.Proofs.Wordings
import Phrasebook.Proofs.Workflows
import Phrasebook.Proofs.Workspaces
import Phrasebook.Pseudo
import Phrasebook.Record.Basic
import Phrasebook.Record.Json
import Phrasebook.Record.Line
import Phrasebook.Resolver
import Phrasebook.Rewrite
import Phrasebook.Scan
import Phrasebook.Settings.Basic
import Phrasebook.Settings.Dotenv
import Phrasebook.Settings.Sources
import Phrasebook.Sink
import Phrasebook.Source.Analysis
import Phrasebook.Source.Document
import Phrasebook.Source.Grammar.Expressions
import Phrasebook.Source.Grammar.Markup
import Phrasebook.Source.Grammar.Operands
import Phrasebook.Source.Grammar.Patterns
import Phrasebook.Source.Grammar.Statements
import Phrasebook.Source.Grammar.Types
import Phrasebook.Source.Lexeme
import Phrasebook.Source.Outline
import Phrasebook.Source.Reader
import Phrasebook.Source.Tree
import Phrasebook.Splice
import Phrasebook.Text.Blank
import Phrasebook.Text.Case
import Phrasebook.Text.CaseTable
import Phrasebook.Text.Cells
import Phrasebook.Text.Hex
import Phrasebook.Text.Lines
import Phrasebook.Text.Printable
import Phrasebook.Text.PrintableTable
import Phrasebook.Text.Utf8
import Phrasebook.Text.WidthTable
import Phrasebook.Workspace
