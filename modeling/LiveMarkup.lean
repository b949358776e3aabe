import LiveMarkup.Application
import LiveMarkup.Arguments
import LiveMarkup.Command
import LiveMarkup.Config
import LiveMarkup.Debounce
import LiveMarkup.Decimal.Shortest
import LiveMarkup.Editor
import LiveMarkup.Engine.Error
import LiveMarkup.Engine.Process
import LiveMarkup.Engine.Script
import LiveMarkup.Engine.Update
import LiveMarkup.Files.IoError
import LiveMarkup.Files.Path
import LiveMarkup.Files.Tree
import LiveMarkup.Format
import LiveMarkup.Generation
import LiveMarkup.Highlight.Grammar
import LiveMarkup.Highlight.HtmlGrammar
import LiveMarkup.Highlight.JsonGrammar
import LiveMarkup.Highlight.MarkdownGrammar
import LiveMarkup.Highlight.MarkdownPattern
import LiveMarkup.Highlight.MarkdownText
import LiveMarkup.Highlight.Pattern
import LiveMarkup.Highlight.Scope
import LiveMarkup.Json.Fault
import LiveMarkup.Json.Input
import LiveMarkup.Json.Printer
import LiveMarkup.Json.Reader
import LiveMarkup.Json.Skip
import LiveMarkup.Json.Value
import LiveMarkup.Main
import LiveMarkup.Markdown.BlockStart
import LiveMarkup.Markdown.Container
import LiveMarkup.Markdown.Emphasis
import LiveMarkup.Markdown.Escape
import LiveMarkup.Markdown.Html
import LiveMarkup.Markdown.Leaf
import LiveMarkup.Markdown.Line
import LiveMarkup.Markdown.Link
import LiveMarkup.Markdown.Node
import LiveMarkup.Markdown.Outline
import LiveMarkup.Markdown.Passage
import LiveMarkup.Markdown.RunningText
import LiveMarkup.Markdown.Sign
import LiveMarkup.Markdown.Table
import LiveMarkup.Markdown.Tag
import LiveMarkup.Notice
import LiveMarkup.Output.Diagnostic
import LiveMarkup.Output.Document
import LiveMarkup.Output.Sink
import LiveMarkup.Output.StaticPane
import LiveMarkup.Playground.Diary
import LiveMarkup.Playground.Outlet
import LiveMarkup.Playground.Run
import LiveMarkup.Playground.State
import LiveMarkup.Playground.Workspace
import LiveMarkup.Position
import LiveMarkup.Position.Advance
import LiveMarkup.Position.Offset
import LiveMarkup.Proofs.Place
import LiveMarkup.Proofs.VisibleText
import LiveMarkup.Reconcile
import LiveMarkup.Reconcile.Bytes
import LiveMarkup.Session
import LiveMarkup.Shell.Reader
import LiveMarkup.Shell.Run
import LiveMarkup.Shell.State
import LiveMarkup.Shell.Syntax
import LiveMarkup.Shell.Token
import LiveMarkup.Shell.Tool
import LiveMarkup.Sources
import LiveMarkup.Stopwatch
import LiveMarkup.Store
import LiveMarkup.Style
import LiveMarkup.Surface
import LiveMarkup.Text.Blank
import LiveMarkup.Text.Bytes
import LiveMarkup.Text.CaseFold
import LiveMarkup.Text.CharRange
import LiveMarkup.Text.Entities
import LiveMarkup.Text.Lines
import LiveMarkup.Text.NamedReference
import LiveMarkup.Text.Punctuation
import LiveMarkup.Text.Quoted
import LiveMarkup.Text.Search
import LiveMarkup.Text.Unprintable
import LiveMarkup.Text.Utf16
import LiveMarkup.Text.Utf8
import LiveMarkup.Text.WordChar
import LiveMarkup.Token
import LiveMarkup.Token.Wire
import LiveMarkup.Toml.Document
import LiveMarkup.Toml.Scalar
import LiveMarkup.Toml.Value
import LiveMarkup.Proofs.RoundTrip
import LiveMarkup.Proofs.ExactStream
import LiveMarkup.Proofs.Interleaving
import LiveMarkup.Proofs.LastUpdate
import LiveMarkup.Proofs.JsonStrings
import LiveMarkup.Proofs.StoredEntries
import LiveMarkup.Proofs.Utf8RoundTrip
import LiveMarkup.Proofs.Disk
import LiveMarkup.Proofs.Durability
import LiveMarkup.Proofs.VirtualClock
import LiveMarkup.Proofs.Moves
import LiveMarkup.Proofs.DisplayHistory
import LiveMarkup.Proofs.MarkupWords
import LiveMarkup.Proofs.TokenStream
import LiveMarkup.Proofs.Restart
import LiveMarkup.Proofs.LexPaths
import LiveMarkup.Proofs.QuietWindow
import LiveMarkup.Proofs.StoreMap
import LiveMarkup.Proofs.StructurePanes
import LiveMarkup.Proofs.CurrentUpdates
import LiveMarkup.Proofs.EditorPane
import LiveMarkup.Proofs.WatchedOutlets
import LiveMarkup.Proofs.LaggingPanes
import LiveMarkup.Proofs.PassStates
import LiveMarkup.Proofs.TakenTokens
import LiveMarkup.Proofs.GateHistory
import LiveMarkup.Proofs.ControlSequences
import LiveMarkup.Proofs.CommandGrammar
import LiveMarkup.Proofs.CommandLines
import LiveMarkup.Proofs.SubmissionFates
import LiveMarkup.Proofs.Subscriptions
import LiveMarkup.Proofs.BalancedPanes
import LiveMarkup.Proofs.InterruptedWrites
import LiveMarkup.Proofs.PlainText
import LiveMarkup.Proofs.Classification
import LiveMarkup.Proofs.LocalFailures
import LiveMarkup.Proofs.SeparatePanes
import LiveMarkup.Proofs.WatchedText
import LiveMarkup.Proofs.Advance
import LiveMarkup.Proofs.Offsets
import LiveMarkup.Proofs.BytePass
import LiveMarkup.Proofs.Escaping
import LiveMarkup.Proofs.SettingKeys
