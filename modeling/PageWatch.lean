import PageWatch.Browser.Binary
import PageWatch.Browser.Launch
import PageWatch.Calendar
import PageWatch.Clock.Advance
import PageWatch.Clock.Basic
import PageWatch.Clock.Limit
import PageWatch.Clock.Routine
import PageWatch.Clock.Wall
import PageWatch.CommandLine.Arguments
import PageWatch.CommandLine.Help
import PageWatch.CommandLine.Run
import PageWatch.CommandLine.Surroundings
import PageWatch.Decimal.Layout
import PageWatch.Decimal.Shortest
import PageWatch.Files
import PageWatch.Json.Fault
import PageWatch.Json.Quoted
import PageWatch.Json.Reader
import PageWatch.Main
import PageWatch.Markup.Builder.Body
import PageWatch.Markup.Builder.Foreign
import PageWatch.Markup.Builder.Formatting
import PageWatch.Markup.Builder.Page
import PageWatch.Markup.Builder.State
import PageWatch.Markup.Builder.Table
import PageWatch.Markup.Node
import PageWatch.Markup.Outline
import PageWatch.Markup.Reference
import PageWatch.Markup.Reference.Names
import PageWatch.Markup.Token
import PageWatch.Markup.Tree
import PageWatch.Markup.Vocabulary
import PageWatch.Notice
import PageWatch.Notice.Filter
import PageWatch.Page.Basic
import PageWatch.Page.Match
import PageWatch.Page.MatchReader
import PageWatch.Page.Probe
import PageWatch.Page.Scripted
import PageWatch.Page.Snapshot
import PageWatch.Performance.Basic
import PageWatch.Performance.Run
import PageWatch.Performance.Scripted
import PageWatch.Proofs.Clock.Alongside
import PageWatch.Proofs.Clock.Cancellation
import PageWatch.Proofs.Clock.Chronicle
import PageWatch.Proofs.Clock.Deadline
import PageWatch.Proofs.Clock.Ending
import PageWatch.Proofs.Clock.Forward
import PageWatch.Proofs.Clock.Frequency
import PageWatch.Proofs.Clock.Limit
import PageWatch.Proofs.Clock.Mirroring
import PageWatch.Proofs.Clock.Moments
import PageWatch.Proofs.Clock.Nesting
import PageWatch.Proofs.Clock.Polling
import PageWatch.Proofs.Clock.Punctuality
import PageWatch.Proofs.Clock.Retasking
import PageWatch.Proofs.Clock.Routine
import PageWatch.Proofs.Clock.Schedule
import PageWatch.Proofs.Clock.Sleeping
import PageWatch.Proofs.Clock.Splitting
import PageWatch.Proofs.Clock.Wall
import PageWatch.Proofs.Clock.Watching
import PageWatch.Proofs.CommandLine.Overriding
import PageWatch.Proofs.Json.Grammar
import PageWatch.Proofs.Json.Reading
import PageWatch.Proofs.Json.Records
import PageWatch.Proofs.Json.Skipping
import PageWatch.Proofs.Markup.DocumentOrder
import PageWatch.Proofs.Page.LastWrite
import PageWatch.Proofs.Page.Sealing
import PageWatch.Proofs.Performance.Balance
import PageWatch.Proofs.Performance.Budget
import PageWatch.Proofs.Performance.Carrying
import PageWatch.Proofs.Performance.Horizon
import PageWatch.Proofs.Performance.Numbering
import PageWatch.Proofs.Performance.OneDocument
import PageWatch.Proofs.Performance.Order
import PageWatch.Proofs.Performance.Reading
import PageWatch.Proofs.Performance.RealTime
import PageWatch.Proofs.Performance.Renaming
import PageWatch.Proofs.Performance.Resting
import PageWatch.Proofs.Performance.Signs
import PageWatch.Proofs.Performance.Transcript
import PageWatch.Proofs.Performance.Turns
import PageWatch.Proofs.Performance.Whole
import PageWatch.Proofs.Report.Indentation
import PageWatch.Proofs.Script.Errands
import PageWatch.Proofs.Script.Provision
import PageWatch.Proofs.Script.Refusals
import PageWatch.Proofs.Script.Relaying
import PageWatch.Proofs.Script.Silence
import PageWatch.Proofs.Script.Ways
import PageWatch.Proofs.Session.Accounts
import PageWatch.Proofs.Session.Actions
import PageWatch.Proofs.Session.Alongside
import PageWatch.Proofs.Session.Books
import PageWatch.Proofs.Session.Editing
import PageWatch.Proofs.Session.Ending
import PageWatch.Proofs.Session.Forward
import PageWatch.Proofs.Session.Guest
import PageWatch.Proofs.Session.Independence
import PageWatch.Proofs.Session.Ledger
import PageWatch.Proofs.Session.Limit
import PageWatch.Proofs.Session.ValueWait
import PageWatch.Proofs.Session.Visit
import PageWatch.Proofs.Session.Visiting
import PageWatch.Proofs.Session.Walled
import PageWatch.Proofs.Settings.Overlay
import PageWatch.Proofs.Wait.Chain
import PageWatch.Proofs.Wait.Concatenation
import PageWatch.Proofs.Wait.Deeds
import PageWatch.Proofs.Wait.OneShot
import PageWatch.Proofs.Wait.Refinement
import PageWatch.Proofs.Wait.StagedWait
import PageWatch.Regex.Basic
import PageWatch.Regex.Matching
import PageWatch.Regex.Reader
import PageWatch.Report
import PageWatch.Script.Call
import PageWatch.Script.Class
import PageWatch.Script.Conversion
import PageWatch.Script.Course
import PageWatch.Script.Dialogue
import PageWatch.Script.Engine
import PageWatch.Script.Expression
import PageWatch.Script.Failure
import PageWatch.Script.Function
import PageWatch.Script.Lexeme
import PageWatch.Script.Library.Array
import PageWatch.Script.Library.Basic
import PageWatch.Script.Library.Date
import PageWatch.Script.Library.Function
import PageWatch.Script.Library.Global
import PageWatch.Script.Library.Host
import PageWatch.Script.Library.Iteration
import PageWatch.Script.Library.Json
import PageWatch.Script.Library.Number
import PageWatch.Script.Library.Object
import PageWatch.Script.Library.Regex
import PageWatch.Script.Library.Setup
import PageWatch.Script.Library.Text
import PageWatch.Script.Memory
import PageWatch.Script.Number
import PageWatch.Script.Operator
import PageWatch.Script.Pattern
import PageWatch.Script.Program
import PageWatch.Script.Property
import PageWatch.Script.Property.Basic
import PageWatch.Script.Property.Description
import PageWatch.Script.Reader.Basic
import PageWatch.Script.Reader.Expression
import PageWatch.Script.Reader.Function
import PageWatch.Script.Reader.Statement
import PageWatch.Script.Reference
import PageWatch.Script.Scope
import PageWatch.Script.Statement
import PageWatch.Script.Syntax
import PageWatch.Selector.Basic
import PageWatch.Selector.Counting
import PageWatch.Selector.Matching
import PageWatch.Selector.Reader
import PageWatch.Selector.Token
import PageWatch.Session.Action
import PageWatch.Session.Basic
import PageWatch.Session.Run
import PageWatch.Settings.Basic
import PageWatch.Settings.File
import PageWatch.Text.Blank
import PageWatch.Text.Case
import PageWatch.Text.CharRanges
import PageWatch.Text.Lines
import PageWatch.Text.Printable
import PageWatch.Text.Units
import PageWatch.Wait.Basic
import PageWatch.Wait.Condition
