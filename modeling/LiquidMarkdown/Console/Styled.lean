import LiquidMarkdown.Console.EmojiTable
import LiquidMarkdown.Text.Blank

/-!
# Styled text

Text for a console may hold tags in brackets that set a style, and names of emoji between colons.
On a console without colours the tags only disappear.  This file defines:

* `Styled.escape` — a text in which nothing is taken for a tag any more;
* `Styled.Chunk` and `Styled.chunks` — a text as literal chunks and tags;
* `Styled.replaceEmoji` — a text with the names of emoji replaced;
* `Styled.plain?` — the text that is shown, unless a tag closes what was not opened.
-/

namespace LiquidMarkdown
namespace Console
namespace Styled

/-! ## Tags -/

/-- May the character begin a tag? -/
def isTagStart (c : Char) : Bool :=
  c.isLower || c = '#' || c = '/' || c = '@'

/-- The tag with which a text begins, without its brackets, and the rest. -/
def tag? : Text → Option (Text × Text)
  | '[' :: c :: t =>
      let body := (c :: t).takeWhile fun d => d != '[' && d != ']'
      match (c :: t).drop body.length with
      | ']' :: rest => if isTagStart c then some (body, rest) else none
      | _ => none
  | _ => none

/-- The tag behind the backslashes with which a text begins, their number, and the rest. -/
def tagBehind? (t : Text) : Option (Nat × Text × Text) :=
  let count := (t.takeWhile (· = '\\')).length
  (tag? (t.drop count)).map fun (body, rest) => (count, body, rest)

/-- The text with a backslash before everything that would be taken for a tag; the backslashes
before it are doubled.  A single backslash at the end is doubled, too. -/
def escapeTags (t : Text) : Text :=
  match tagBehind? t with
  | some (count, body, rest) =>
      if rest.length < t.length then
        List.replicate (2 * count + 1) '\\' ++ '[' :: body ++ ']' :: escapeTags rest
      else t
  | none => match t with
      | [] => []
      | c :: u => c :: escapeTags u
termination_by t.length

/-- The text with a single backslash at its end doubled. -/
def doubleFinalBackslash (t : Text) : Text :=
  match t.reverse with
  | ['\\'] => ['\\', '\\']
  | '\\' :: c :: _ => if c = '\\' then t else t ++ ['\\']
  | _ => t

/-- A text in which nothing is taken for a tag. -/
def escape (t : Text) : Text :=
  doubleFinalBackslash (escapeTags t)

/-! ## Chunks -/

/-- A part of styled text. -/
inductive Chunk where
  | literal (t : Text)
  | tag (body : Text)
  deriving DecidableEq, Repr

/-- The literal chunk for a text that is given in reverse, unless it is empty. -/
def literalOf (pending : Text) : List Chunk :=
  if pending = [] then [] else [.literal pending.reverse]

/-- The chunks of a text behind a literal text that is given in reverse.  Of the backslashes before
a tag, two stand for one, and one that is left over makes the tag literal. -/
def chunksFrom (pending : Text) (t : Text) : List Chunk :=
  match tagBehind? t with
  | some (count, body, rest) =>
      if rest.length < t.length then
        literalOf pending ++ literalOf (List.replicate (count / 2) '\\') ++
          (if count % 2 = 1 then .literal ('[' :: body ++ [']']) else .tag body) ::
          chunksFrom [] rest
      else literalOf pending
  | none => match t with
      | [] => literalOf pending
      | c :: u => chunksFrom (c :: pending) u
termination_by t.length

/-- The chunks of a text. -/
def chunks (t : Text) : List Chunk :=
  chunksFrom [] t

/-! ## Emoji -/

/-- The characters that a list of hexadecimal numbers with plus signs stands for. -/
def emojiOf (t : Text) : Text :=
  (Text.splitAt '+' t).map fun ds => Char.ofNat (ds.foldl (fun n c =>
    16 * n + (if c.isDigit then c.toNat - 48 else c.toNat - 87)) 0)

/-- Names and emoji from words in turn. -/
def emojiNames : List Text → List (Text × Text)
  | name :: codes :: rest => (name, emojiOf codes) :: emojiNames rest
  | _ => []

/-- The emoji with names. -/
def emoji : List (Text × Text) :=
  emojiNames (emojiLines.flatMap fun line => Text.splitAt ' ' line.toList)

/-- How a name may end, and the character that asks for such an emoji. -/
def variants : List (Text × Text) :=
  [("-emoji:", [Char.ofNat 0xfe0f]), ("-text:", [Char.ofNat 0xfe0e]), (([':'] : Text), [])]

/-- The name that a colon opens: the name itself, what its variant adds, and the text behind it;
`name` is its reversed beginning. -/
def emojiName? (name : Text) (t : Text) : Option (Text × Text × Text) :=
  match variants.findSome? fun (stop, adds) =>
      (Text.dropPrefix? stop t).map fun rest => (name.reverse, adds, rest) with
  | some found => some found
  | none => match t with
      | [] => none
      | c :: u => if Text.isBlank c then none else emojiName? (c :: name) u

/-- The text with the names of emoji between colons replaced. -/
def replaceEmoji : Text → Text
  | [] => []
  | c :: t =>
      match if c = ':' then emojiName? [] t else none with
      | some (name, adds, rest) =>
          if rest.length < t.length then
            (match emoji.lookup (name.map Char.toLower) with
              | some e => e ++ adds
              | none => c :: t.take (t.length - rest.length)) ++ replaceEmoji rest
          else c :: replaceEmoji t
      | none => c :: replaceEmoji t
termination_by t => t.length
decreasing_by all_goals simp only [List.length_cons]; omega

/-! ## What is shown -/

/-- A backslash before a bracket that opens no tag is dropped. -/
def dropBracketEscapes : Text → Text
  | '\\' :: '[' :: t => '[' :: dropBracketEscapes t
  | c :: t => c :: dropBracketEscapes t
  | [] => []

/-- Is the character one that consoles act on instead of showing it? -/
def isSignal (c : Char) : Bool :=
  c.toNat == 7 || c.toNat == 8 || 11 ≤ c.toNat && c.toNat ≤ 13

/-- A literal chunk as it is shown. -/
def shown (t : Text) : Text :=
  (replaceEmoji (dropBracketEscapes t)).filter fun c => !isSignal c

/-- The name of the style of a tag. -/
def styleOf (body : Text) : Text :=
  (Text.trim (body.takeWhile (· != '='))).map Char.toLower

/-- The literal chunks as they are shown; `opened` are the styles that are open, the last one
first. -/
def plainFrom? (opened : List Text) : List Chunk → Option Text
  | [] => some []
  | .literal t :: cs => (plainFrom? opened cs).map (shown t ++ ·)
  | .tag ('/' :: body) :: cs =>
      let style := styleOf body
      match opened with
      | [] => none
      | _ :: outer =>
          if style = [] then plainFrom? outer cs
          else if opened.contains style then plainFrom? (opened.erase style) cs
          else none
  | .tag body :: cs => plainFrom? (styleOf body :: opened) cs

/-- The text that is shown, unless a tag closes what was not opened. -/
def plain? (t : Text) : Option Text :=
  plainFrom? [] (chunks t)

/-- The text that is shown; a text with a wrong tag is shown as it is. -/
def plain (t : Text) : Text :=
  (plain? t).getD t

/-- A text in a style. -/
def inStyle (style : Text) (t : Text) : Text :=
  '[' :: style ++ ']' :: t ++ ['[', '/'] ++ style ++ [']']

end Styled
end Console
end LiquidMarkdown
