import Screener.Argument
import Screener.Call
import Screener.Catalog.Basic
import Screener.Catalog.BuiltIn
import Screener.Catalog.Definition
import Screener.Catalog.Signature
import Screener.Cli.Arguments
import Screener.Cli.Command
import Screener.Cli.Disk
import Screener.Cli.Run
import Screener.Digest.Sha256
import Screener.Display.Formula
import Screener.Display.Plain
import Screener.Display.Styled
import Screener.Entries
import Screener.Equation.Lexeme
import Screener.Equation.Segment
import Screener.Fault
import Screener.File
import Screener.Form
import Screener.Formula.Assess
import Screener.Formula.Basic
import Screener.Formula.Edit
import Screener.Formula.Grammar
import Screener.Formula.OfEquation
import Screener.Formula.View
import Screener.Issue
import Screener.Json.Basic
import Screener.Json.Reader
import Screener.Json.Writer
import Screener.Library.Basic
import Screener.Library.Store
import Screener.Main
import Screener.Notebook
import Screener.Number.Double
import Screener.Number.Shortest
import Screener.Record
import Screener.Session
import Screener.Settings
import Screener.Text.Basic
import Screener.Text.Blank
import Screener.Text.Printable
import Screener.Text.Upper
import Screener.Token.Basic
import Screener.Token.Literal
import Screener.Proofs.Fallible
import Screener.Proofs.Placement
import Screener.Proofs.Literals
import Screener.Proofs.Pattern
import Screener.Proofs.Lexemes
import Screener.Proofs.Segments
import Screener.Proofs.Grouping
import Screener.Proofs.Canonical
import Screener.Proofs.Layout
import Screener.Proofs.LongestMatch
import Screener.Proofs.Boundaries
import Screener.Proofs.Items
import Screener.Proofs.Calls
import Screener.Proofs.Changes
import Screener.Proofs.Built
import Screener.Proofs.Rebuilt
import Screener.Proofs.Deletions
import Screener.Proofs.Runs
import Screener.Proofs.Escapes
import Screener.Proofs.Numerals
import Screener.Proofs.Spellings
import Screener.Proofs.Readings
import Screener.Proofs.Written
import Screener.Proofs.Saved
import Screener.Proofs.Stored
import Screener.Proofs.Notebooks
import Screener.Proofs.Forms
import Screener.Proofs.Details
import Screener.Proofs.Committed
import Screener.Proofs.Failures
import Screener.Proofs.CanonicalCalls
import Screener.Proofs.Exchanges
import Screener.Proofs.CallShapes
import Screener.Proofs.Reopened
import Screener.Proofs.Resaved
import Screener.Proofs.Described
import Screener.Proofs.Loaded
import Screener.Proofs.KnownCalls
import Screener.Proofs.NameTables
import Screener.Proofs.Definitions
import Screener.Proofs.DefaultCalls
import Screener.Proofs.CatalogFiles
import Screener.Proofs.Fingerprints
import Screener.Proofs.Listed
import Screener.Proofs.KeptSettings
import Screener.Proofs.SavedFiles
import Screener.Proofs.SettingsCommand
