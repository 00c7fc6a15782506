import SyntaxCursor.Abstract.Node
import SyntaxCursor.Abstract.Place
import SyntaxCursor.Abstract.Selected
import SyntaxCursor.CommandLine.Arguments
import SyntaxCursor.CommandLine.Command
import SyntaxCursor.CommandLine.Run
import SyntaxCursor.Concrete.Arena
import SyntaxCursor.Concrete.Listing
import SyntaxCursor.Concrete.Locate
import SyntaxCursor.Concrete.Numbering
import SyntaxCursor.Concrete.ParseTree
import SyntaxCursor.Conversion.Converter
import SyntaxCursor.Conversion.Kind
import SyntaxCursor.Conversion.Literal
import SyntaxCursor.Conversion.Rule
import SyntaxCursor.Conversion.Selection
import SyntaxCursor.Conversion.Walk
import SyntaxCursor.Display.Action.Literal
import SyntaxCursor.Display.Action.Parameters
import SyntaxCursor.Display.Action.Token
import SyntaxCursor.Display.Colour
import SyntaxCursor.Display.Emoji
import SyntaxCursor.Display.EmojiTable
import SyntaxCursor.Display.Line
import SyntaxCursor.Display.Markup
import SyntaxCursor.Display.Style
import SyntaxCursor.Display.Table
import SyntaxCursor.Display.TreeView
import SyntaxCursor.Main
import SyntaxCursor.Navigation.Analyzer
import SyntaxCursor.Navigation.Navigator
import SyntaxCursor.Navigation.Tools
import SyntaxCursor.Number.Binary64
import SyntaxCursor.Number.Integer
import SyntaxCursor.Number.Shortest
import SyntaxCursor.Path
import SyntaxCursor.Position
import SyntaxCursor.Proofs.Flags
import SyntaxCursor.Proofs.Locating
import SyntaxCursor.Proofs.Overlay
import SyntaxCursor.Proofs.Placement
import SyntaxCursor.Proofs.Requests
import SyntaxCursor.Proofs.TreeWalk
import SyntaxCursor.Record.Datum
import SyntaxCursor.Record.Document
import SyntaxCursor.Record.Json
import SyntaxCursor.Record.Node
import SyntaxCursor.Record.Place
import SyntaxCursor.Settings
import SyntaxCursor.Text.Blank
import SyntaxCursor.Text.CodePoint
import SyntaxCursor.Text.Columns
import SyntaxCursor.Text.DecimalDigit
import SyntaxCursor.Text.LowerCase
import SyntaxCursor.Text.Printable
import SyntaxCursor.Text.Quoted
import SyntaxCursor.Text.Ranges
import SyntaxCursor.Text.Utf8
import SyntaxCursor.Text.Width
import SyntaxCursor.Text.WordChar
import SyntaxCursor.Version
import SyntaxCursor.Proofs.Marking
import SyntaxCursor.Proofs.Bearer
import SyntaxCursor.Proofs.Coverage
import SyntaxCursor.Proofs.Encoding
import SyntaxCursor.Proofs.Finished
import SyntaxCursor.Proofs.Creators
import SyntaxCursor.Proofs.Content
import SyntaxCursor.Proofs.Lifecycle
import SyntaxCursor.Proofs.Positions
import SyntaxCursor.Proofs.TargetVersion
import SyntaxCursor.Proofs.Labels
import SyntaxCursor.Proofs.Tracing
import SyntaxCursor.Proofs.Serving
import SyntaxCursor.Proofs.Refusals
import SyntaxCursor.Proofs.Boundaries
import SyntaxCursor.Proofs.Reports
import SyntaxCursor.Proofs.Selecting
import SyntaxCursor.Proofs.Pending
import SyntaxCursor.Proofs.PostOrder
import SyntaxCursor.Proofs.Numerals
import SyntaxCursor.Proofs.MarkingOnce
import SyntaxCursor.Proofs.Spans
import SyntaxCursor.Proofs.PositionOrder
import SyntaxCursor.Proofs.DisplayedTree
import SyntaxCursor.Proofs.Enclosing
import SyntaxCursor.Proofs.LocationRoundTrip
