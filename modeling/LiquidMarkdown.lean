import LiquidMarkdown.Main
import LiquidMarkdown.Proofs.Annotation.Bare
import LiquidMarkdown.Proofs.Annotation.Blocks
import LiquidMarkdown.Proofs.Annotation.Consistency
import LiquidMarkdown.Proofs.Annotation.InPlace
import LiquidMarkdown.Proofs.Annotation.Literal
import LiquidMarkdown.Proofs.Annotation.Location
import LiquidMarkdown.Proofs.Annotation.Naming
import LiquidMarkdown.Proofs.Annotation.Outcome
import LiquidMarkdown.Proofs.Annotation.Pairing
import LiquidMarkdown.Proofs.Annotation.Rerun
import LiquidMarkdown.Proofs.Annotation.Settling
import LiquidMarkdown.Proofs.Annotation.Splicing
import LiquidMarkdown.Proofs.Annotation.Totality
import LiquidMarkdown.Proofs.Construct.Appending
import LiquidMarkdown.Proofs.Construct.BlockEnds
import LiquidMarkdown.Proofs.Construct.Cuts
import LiquidMarkdown.Proofs.Construct.Leftmost
import LiquidMarkdown.Proofs.Construct.Nesting
import LiquidMarkdown.Proofs.Construct.Offsets
import LiquidMarkdown.Proofs.Construct.Pieces
import LiquidMarkdown.Proofs.Construct.Plain
import LiquidMarkdown.Proofs.Construct.Scanning
import LiquidMarkdown.Proofs.Document.Blocks
import LiquidMarkdown.Proofs.Document.Closing
import LiquidMarkdown.Proofs.Document.Cuts
import LiquidMarkdown.Proofs.Document.Emission
import LiquidMarkdown.Proofs.Document.Expansion
import LiquidMarkdown.Proofs.Document.Failure
import LiquidMarkdown.Proofs.Document.Framing
import LiquidMarkdown.Proofs.Document.Numbering
import LiquidMarkdown.Proofs.Document.Origin
import LiquidMarkdown.Proofs.Document.Segmentation
import LiquidMarkdown.Proofs.Document.SourceOrder
import LiquidMarkdown.Proofs.Document.Stability
import LiquidMarkdown.Proofs.Document.Tree
import LiquidMarkdown.Proofs.Document.Walk
import LiquidMarkdown.Proofs.Markdown.Bounds
import LiquidMarkdown.Proofs.Markdown.Document
import LiquidMarkdown.Proofs.Markdown.Enclosure
import LiquidMarkdown.Proofs.Markdown.Leaves
import LiquidMarkdown.Proofs.Markdown.Locate
import LiquidMarkdown.Proofs.Markdown.Order
import LiquidMarkdown.Proofs.Markdown.Paragraph
import LiquidMarkdown.Proofs.Markdown.Search
import LiquidMarkdown.Proofs.Pairing.Accounting
import LiquidMarkdown.Proofs.Pairing.Assignment
import LiquidMarkdown.Proofs.Pairing.BlockIds
import LiquidMarkdown.Proofs.Pairing.Brackets
import LiquidMarkdown.Proofs.Pairing.Check
import LiquidMarkdown.Proofs.Pairing.DocumentOrder
import LiquidMarkdown.Proofs.Pairing.Frames
import LiquidMarkdown.Proofs.Pairing.History
import LiquidMarkdown.Proofs.Pairing.Host
import LiquidMarkdown.Proofs.Pairing.Invariant
import LiquidMarkdown.Proofs.Pairing.Mapping
import LiquidMarkdown.Proofs.Pairing.Marking
import LiquidMarkdown.Proofs.Pairing.Matching
import LiquidMarkdown.Proofs.Pairing.Outcome
import LiquidMarkdown.Proofs.Pairing.Repetition
import LiquidMarkdown.Proofs.Pairing.Roster
import LiquidMarkdown.Proofs.Pairing.Rows
import LiquidMarkdown.Proofs.Pairing.Separation
import LiquidMarkdown.Proofs.Pairing.Writing
import LiquidMarkdown.Proofs.Report
import LiquidMarkdown.Proofs.Report.Blocks
import LiquidMarkdown.Proofs.Source.Advance
import LiquidMarkdown.Proofs.Source.LineIndex
import LiquidMarkdown.Proofs.Source.OffsetMap
import LiquidMarkdown.Proofs.Source.Tracing
import LiquidMarkdown.Proofs.Tag.Name
import LiquidMarkdown.Proofs.Tag.Roles
import LiquidMarkdown.Proofs.Template.Alike
import LiquidMarkdown.Proofs.Template.Chains
import LiquidMarkdown.Proofs.Template.Contents
import LiquidMarkdown.Proofs.Template.Expressions
import LiquidMarkdown.Proofs.Template.Filters
import LiquidMarkdown.Proofs.Template.Keywords
import LiquidMarkdown.Proofs.Template.Law
import LiquidMarkdown.Proofs.Template.LawExpression
import LiquidMarkdown.Proofs.Template.LawStatement
import LiquidMarkdown.Proofs.Template.Layout
import LiquidMarkdown.Proofs.Template.Lexeme
import LiquidMarkdown.Proofs.Template.Lexing
import LiquidMarkdown.Proofs.Template.LineTags
import LiquidMarkdown.Proofs.Template.Local
import LiquidMarkdown.Proofs.Template.Partials
import LiquidMarkdown.Proofs.Template.Preservation
import LiquidMarkdown.Proofs.Template.ProgressStatement
import LiquidMarkdown.Proofs.Template.Quotes
import LiquidMarkdown.Proofs.Template.Rewriting
import LiquidMarkdown.Proofs.Template.Tags
import LiquidMarkdown.Proofs.Template.Undefined
import LiquidMarkdown.Proofs.Text.Slice
import LiquidMarkdown.Template.Undefined
import LiquidMarkdown.Text.CommaList
