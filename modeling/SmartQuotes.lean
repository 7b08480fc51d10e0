import SmartQuotes.Text.Position
import SmartQuotes.Text.Quoted
import SmartQuotes.Main
import SmartQuotes.Linter.Steps
import SmartQuotes.Proofs.Quote.Alignment
import SmartQuotes.Proofs.Linter.Frame
import SmartQuotes.Proofs.Linter.Settled
import SmartQuotes.Proofs.Linter.Layers
import SmartQuotes.Proofs.Exact
import SmartQuotes.Proofs.FileTree
import SmartQuotes.Proofs.Command.Source
import SmartQuotes.Proofs.Command.Fix
import SmartQuotes.Proofs.Command.Settled
import SmartQuotes.Proofs.Markup.Body
import SmartQuotes.Proofs.Markup.Notes
import SmartQuotes.Proofs.Linter.Pending
import SmartQuotes.Proofs.Command.Separate
import SmartQuotes.Proofs.Linter.Session
import SmartQuotes.Proofs.Quote.Grammar
import SmartQuotes.Proofs.Quote.Reread
import SmartQuotes.Proofs.Markup.Partition
import SmartQuotes.Proofs.Markup.Prose
import SmartQuotes.Proofs.Markup.QuotedRun
import SmartQuotes.Proofs.Quote.Finding
import SmartQuotes.Proofs.Script.Parenthesized
import SmartQuotes.Proofs.Linter.Places
import SmartQuotes.Proofs.Quote.Merge
import SmartQuotes.Proofs.Text.Splice
import SmartQuotes.Proofs.Quote.Openings
import SmartQuotes.Proofs.Command.Collected
import SmartQuotes.Proofs.Command.Check
import SmartQuotes.Proofs.Console.Emoji
import SmartQuotes.Proofs.Console.Styled
import SmartQuotes.Proofs.Console.Width
import SmartQuotes.Proofs.Console.Layout
import SmartQuotes.Proofs.Console.Table
import SmartQuotes.Proofs.Linter.Summary
