import FenceLint.Text.Blank
import FenceLint.Text.CaseTable
import FenceLint.Text.Case
import FenceLint.Text.Printable
import FenceLint.Text.Quoted
import FenceLint.Text.Lines
import FenceLint.Text.Utf8
import FenceLint.Text.Integer
import FenceLint.Decimal.Binary64
import FenceLint.Decimal.Shortest
import FenceLint.Json.Value
import FenceLint.Json.Comments
import FenceLint.Json.Reader
import FenceLint.Json.Writer
import FenceLint.Json.Display
import FenceLint.Config
import FenceLint.Markdown.Line
import FenceLint.Markdown.Region
import FenceLint.Markdown.Leaf
import FenceLint.Markdown.Fence
import FenceLint.Markdown.Item
import FenceLint.Markdown.Table
import FenceLint.Markdown.Interrupt
import FenceLint.Markdown.Link
import FenceLint.Markdown.Reference
import FenceLint.Markdown.Quote
import FenceLint.Markdown.Document
import FenceLint.Block
import FenceLint.Tree.Path
import FenceLint.Tree.Basic
import FenceLint.Ignore.Glob
import FenceLint.Ignore.Pattern
import FenceLint.Failure
import FenceLint.Rules.Setting
import FenceLint.Trace
import FenceLint.Finding
import FenceLint.Rules.Engine
import FenceLint.Rules.LineStart
import FenceLint.Ignore.Filter
import FenceLint.Discover
import FenceLint.Report
import FenceLint.Report.Json
import FenceLint.Markup.Tag
import FenceLint.Markup.EmojiTable
import FenceLint.Markup.Emoji
import FenceLint.Markup.Styled
import FenceLint.Markup.Wrap
import FenceLint.Markup.Console
import FenceLint.Report.Console
import FenceLint.Run
import FenceLint.Command.Options
import FenceLint.Command
import FenceLint.Main
import FenceLint.Proofs.Text.Numeral
import FenceLint.Proofs.Text.Lower
import FenceLint.Proofs.Text.Parted
import FenceLint.Proofs.Markdown.View
import FenceLint.Proofs.Markdown.Fences
import FenceLint.Proofs.Block.Lines
import FenceLint.Proofs.Block.Forest
import FenceLint.Proofs.Block.Extent
import FenceLint.Proofs.Block.Order
import FenceLint.Proofs.Block.Depth
import FenceLint.Proofs.Block.Relocation
import FenceLint.Proofs.Run.Findings
import FenceLint.Proofs.Json.Grammar
import FenceLint.Proofs.Json.Comments
import FenceLint.Proofs.Json.Scalars
import FenceLint.Proofs.Json.Reading
import FenceLint.Proofs.Config.Decorated
import FenceLint.Proofs.Trace
import FenceLint.Proofs.Rules.Applied
import FenceLint.Proofs.Rules.Suppression
import FenceLint.Proofs.Discover.Basic
import FenceLint.Proofs.Discover.AlwaysIgnored
import FenceLint.Proofs.Discover.NestedIgnore
import FenceLint.Proofs.Run.BlankBlocks
import FenceLint.Proofs.Json.RoundTrip
import FenceLint.Proofs.Report.Json
import FenceLint.Proofs.Run.Passing
import FenceLint.Proofs.Tree.Changed
import FenceLint.Proofs.Tree.WellFormed
import FenceLint.Proofs.Tree.Lookup
import FenceLint.Proofs.Tree.Renamed
import FenceLint.Proofs.Run.Concatenation
import FenceLint.Proofs.Command.Verdict
import FenceLint.Proofs.Rules.Meaning
import FenceLint.Proofs.Json.Accepted
import FenceLint.Proofs.Json.Passes
import FenceLint.Proofs.Json.TracedCommas
import FenceLint.Proofs.Config.Accepted
import FenceLint.Proofs.Json.Plain
import FenceLint.Proofs.Discover.Order
import FenceLint.Proofs.Discover.Locality
import FenceLint.Proofs.Discover.IgnoreDirectory
import FenceLint.Proofs.Finding.Detail
import FenceLint.Proofs.Markup.Cut
import FenceLint.Proofs.Markup.Escape
import FenceLint.Proofs.Markup.Emoji
import FenceLint.Proofs.Markup.Shown
import FenceLint.Proofs.Markup.Line
import FenceLint.Proofs.Markup.Rendered
import FenceLint.Proofs.Markup.Printed
import FenceLint.Proofs.Markup.Template
import FenceLint.Proofs.Report.Lines
import FenceLint.Proofs.Report.Console
