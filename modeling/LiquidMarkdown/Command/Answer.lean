import LiquidMarkdown.Annotation.Journal
import LiquidMarkdown.Command.Request
import LiquidMarkdown.Console.Grid
import LiquidMarkdown.Console.Outline
import LiquidMarkdown.Console.Styled
import LiquidMarkdown.Markdown.Document
import LiquidMarkdown.Report.Json
import LiquidMarkdown.Text.Lines

/-!
# Answers

What the program prints for a request.  This file defines:

* `Command.preview` — a text on one line, cut down to a length;
* `Command.checkLines`, `Command.blockLines`, `Command.treeLines` — the views of a document;
* `Command.Contents` — what is found at the path of a request;
* `Command.Answer`, `Command.answer` — what is printed, and with which exit code.
-/

namespace LiquidMarkdown
namespace Command

open Console

/-! ## Texts -/

/-- The cells of a line of output. -/
def width : Nat := 400

/-- The beginning of a text; a negative length counts from its end. -/
def takeInt (length : Int) (t : Text) : Text :=
  if length < 0 then t.take (t.length - length.natAbs) else t.take length.toNat

/-- A text on one line, cut down to a length. -/
def preview (limit : Int) (t : Text) : Text :=
  let t := Text.replace '\n' ['\\', 'n'] t
  if limit < t.length then takeInt (limit - 3) t ++ "..." else t

/-- A preview in which nothing is taken for a tag. -/
def sample (limit : Int) (t : Text) : Text :=
  Styled.escape (preview limit t)

/-- The lines that styled text is printed on. -/
def printed (t : Text) : List Text :=
  wrap .fold width (Styled.plain t)

/-! ## Problems -/

/-- The problems of a document in a grid. -/
def findingGrid (limit : Int) (fs : List Report.Finding) : Grid where
  titles := ["Location", "Construct", "Problem"]
  rows := fs.map fun f =>
    [f.location, Styled.plain (sample limit f.content), Styled.plain (Styled.escape f.message)]

/-- The problems of a document. -/
def checkLines (limit : Int) (r : Report) : List Text :=
  printed (Text.ofNat r.expressions.length ++ " expression(s), " ++ Text.ofNat r.tags.length ++
      " tag(s), " ++ Text.ofNat r.blocks.length ++ " block(s)") ++
    if r.ok then printed (Styled.inStyle "green" "✓" ++ " No problems found")
    else (findingGrid limit r.findings).lines width ++
      printed (Styled.inStyle "red"
        (("✗ " : Text) ++ Text.ofNat r.findings.length ++ " problem(s)"))

/-! ## Blocks -/

/-- A block with its tags. -/
def blockLines (limit : Int) (b : Report.Block) : List Text :=
  let place := match b.line with
    | none | some 0 => []
    | some line => (" (line " : Text) ++ Text.ofInt line ++ ")"
  printed (Styled.inStyle "cyan" b.blockType ++ ' ' :: Styled.inStyle "dim" b.id ++ place) ++
    printed (("  start: " : Text) ++ sample limit b.start) ++
    b.continuations.flatMap (fun c => printed (("  continuation: " : Text) ++ sample limit c)) ++
    printed (("  end: " : Text) ++ match b.stop with
      | some stop => sample limit stop
      | none => Styled.inStyle "red" "<missing>")

/-- The blocks of a document. -/
def blocksLines (limit : Int) (r : Report) : List Text :=
  if r.blocks = [] then printed (Styled.inStyle "dim" "No blocks found")
  else r.blocks.flatMap (blockLines limit)

/-! ## The tree -/

/-- The word for an outcome. -/
def outcomeWord : Outcome → Text
  | .success => Styled.inStyle "green" "ok"
  | .failed => Styled.inStyle "red" "error"
  | .pending => Styled.inStyle "dim" "pending"

/-- A text that is shown behind others in a style, unless it is empty. -/
def behind (style : Text) (t : Option Text) : Text :=
  match t with
  | some (c :: cs) => ' ' :: Styled.inStyle style (c :: cs)
  | _ => []

/-- The entry for a node in an outline. -/
def entryOf (limit : Int) (l : Label) : Text :=
  match l.kind.construct? with
  | some c =>
      Styled.inStyle "magenta" l.type ++ ' ' :: sample limit c.raw ++ ' ' ::
        outcomeWord c.outcome ++
        behind "dim" (l.kind.tag?.bind (·.blockId)) ++
        behind "red" (c.error.map Styled.escape)
  | none =>
      Styled.inStyle "blue" l.type ++ match l.value with
        | some t => ' ' :: sample limit t
        | none => []

mutual

/-- A tree as an outline. -/
def outlineOf (limit : Int) : Node → Outline
  | .branch l cs => .entry (Styled.plain (entryOf limit l)) (outlinesOf limit cs)
  | .stub l => .entry (Styled.plain (entryOf limit l)) []

def outlinesOf (limit : Int) : List Node → List Outline
  | [] => []
  | c :: cs => outlineOf limit c :: outlinesOf limit cs

end

/-- The annotated tree of a document. -/
def treeLines (limit : Int) (n : Node) : List Text :=
  (outlineOf limit n).lines width

/-! ## Answers -/

/-- What is found at the path of a request. -/
inductive Contents where
  | document (t : Text)
  | missing
  /-- Something that is no document. -/
  | unreadable
  deriving DecidableEq, Repr

/-- What the program prints, and with which exit code it ends. -/
structure Answer where
  exitCode : Nat
  output : List Text := []
  log : List Text := []
  deriving DecidableEq, Repr

/-- The version of the program. -/
def version : Text := "0.1.0"

/-- Is the document read from standard input? -/
def Request.isFromInput (r : Request) : Bool :=
  r.path = ['-']

/-- The answer for a path at which nothing is found. -/
def answerMissing (path : Text) : Answer :=
  match Styled.plain? (Styled.inStyle "red" (("Error: " : Text) ++ path ++ " not found")) with
  | some t => { exitCode := 1, output := wrap .fold width t }
  | none => { exitCode := 1 }

/-- The answer for an annotated document. -/
def answerTree (limit : Int) (v : View) (n : Node) : Answer :=
  let r := Report.ofTree n
  match v with
  | .check true =>
      { exitCode := if r.ok then 0 else 1, output := [r.toJson.render] }
  | .check false => { exitCode := if r.ok then 0 else 1, output := checkLines limit r }
  | .blocks => { exitCode := 0, output := blocksLines limit r }
  | .tree => { exitCode := 0, output := treeLines limit n }

/-- The answer for a document. -/
def answerDocument (limit : Int) (r : Request) (source : Text) : Except DocumentError Answer := do
  let tree := Node.ofMarkdown source
  let entries ← journal .standard source tree
  let n ← annotate .standard (some source) (some tree)
  return { answerTree limit r.view n with log := Journal.shown r.verbosity entries }

/-- The answer for a request; `limit` is the length of previews. -/
def answer (limit : Int) (r : Request) : Contents → Answer
  | .missing => answerMissing r.path
  | .unreadable => { exitCode := 1 }
  | .document t => match answerDocument limit r (Text.normalizeNewlines t) with
      | .ok a => a
      | .error _ => { exitCode := 1 }

end Command
end LiquidMarkdown
