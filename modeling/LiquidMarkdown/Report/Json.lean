import LiquidMarkdown.Report
import LiquidMarkdown.Text.Json

/-!
# Reports as JSON

This file defines:

* `Report.Finding.toJson`, `Report.Block.toJson` — a problem and a block;
* `Report.toJson` — a whole report.
-/

namespace LiquidMarkdown
namespace Report

/-- A list of texts. -/
def textsToJson (ts : List Text) : Json :=
  .list (ts.map .text)

/-- A block. -/
def Block.toJson (b : Block) : Json :=
  .object [("id", .text b.id), ("type", .text b.blockType), ("start", .text b.start),
    ("continuations", textsToJson b.continuations), ("end", .ofText? b.stop),
    ("line", .ofInt? b.line)]

/-- A problem. -/
def Finding.toJson (f : Finding) : Json :=
  .object [("node_type", .text f.nodeType), ("content", .text f.content),
    ("message", .text f.message), ("tag_name", .ofText? f.tagName), ("line", .ofInt? f.line),
    ("column", .ofInt? f.column), ("offset", .ofInt? f.offset)]

/-- A whole report. -/
def toJson (r : Report) : Json :=
  .object [("total_nodes", .number r.total),
    ("node_types", .object (r.nodeTypes.map fun (t, n) => (t, .number n))),
    ("expressions", textsToJson r.expressions), ("tags", textsToJson r.tags),
    ("blocks", .list (r.blocks.map Block.toJson)),
    ("diagnostics", .list (r.findings.map Finding.toJson))]

end Report
end LiquidMarkdown
