import FenceLint.Text.Blank
import FenceLint.Text.Case
import FenceLint.Markdown.Document

/-!
# Nested Markdown blocks

A document may show Markdown inside fenced code, which may show Markdown in turn.  This module
finds these blocks at every level.  They come in pre-order: a block, then everything inside it,
then its next sibling.

Lines are counted in the top file.  Line `n` of a block's content is line `block.line + n` of the
file, so the content of a block can be read again as a document whose first line follows
`block.line`.
-/

namespace FenceLint

/-- A fenced code block that holds Markdown. -/
structure Block where
  /-- The text between the fences. -/
  content : String
  /-- The line of the top file on which the block opens, counted from 1. -/
  line : Int
  /-- How many Markdown blocks enclose it, on top of the depth at which the search started. -/
  depth : Int
  /-- The chain of opening lines from the top file to the block, for diagnostics. -/
  trail : String
  /-- The language of the block as it is written, trimmed. -/
  info : String
  /-- The file that the block comes from. -/
  file : String
deriving Repr, DecidableEq, Inhabited

/-- Where a text stands. -/
structure Origin where
  /-- The file that the text comes from. -/
  file : String := ""
  /-- The line of the top file before the first line of the text. -/
  base : Int := 0
  /-- The depth of the blocks directly in the text. -/
  depth : Int := 0
  /-- The trail of the block that holds the text, empty for a file. -/
  trail : String := ""
deriving Repr, DecidableEq, Inhabited

/-- What extraction sees of a parsed document. -/
inductive Token where
  /-- A fenced block with its info text, content and opening line counted from 0, where known. -/
  | fence (info content : String) (start : Option Int)
  /-- Anything else. -/
  | other
deriving Repr, DecidableEq, Inhabited

/-- A way to parse documents. -/
abbrev Tokenizer := String → List Token

/-- The languages, in lower case, whose blocks are Markdown. -/
def markdownLanguages : List String := ["markdown", "md"]

/-- The info text names Markdown. -/
def isMarkdownInfo (info : String) : Bool :=
  markdownLanguages.contains (Text.lower (Text.strip info))

namespace Origin

/-- The block that a Markdown fence of the text is.  A fence without a known line is put on the line
before the text. -/
def block (o : Origin) (info content : String) (start : Option Int) : Block :=
  let line := match start with
    | some s => o.base + s + 1
    | none => o.base
  { content, line
    depth := o.depth
    trail :=
      if o.trail.isEmpty then "line " ++ toString line
      else o.trail ++ " > block at line " ++ toString line
    info := Text.strip info
    file := o.file }

/-- The origin of the content of a block. -/
def inside (b : Block) : Origin :=
  { file := b.file, base := b.line, depth := b.depth + 1, trail := b.trail }

/-- How many levels of blocks a depth limit leaves below an origin; `unlimited` without a limit. -/
def levels (o : Origin) (limit : Option Int) (unlimited : Nat) : Nat :=
  match limit with
  | none => unlimited
  | some m => (m - o.depth + 1).toNat

end Origin

/-- The Markdown blocks of a text, `levels` levels of them, in pre-order.  The content of a block is
searched in turn unless it is blank.  An interpreter that nests its calls as deep as the blocks may
have to give up at about a thousand levels; such a limit is left out here, unlike that on the depth
of JSON values (`Json.Limit.maxDepth`). -/
def blocksOf (tokenize : Tokenizer) : Nat → Origin → String → List Block
  | 0, _, _ => []
  | levels + 1, o, text =>
    (tokenize text).flatMap fun
      | .fence info content start =>
        if isMarkdownInfo info then
          let b := o.block info content start
          b :: if Text.isBlankText content then [] else blocksOf tokenize levels (.inside b) content
        else []
      | .other => []

/-- The parser of Markdown documents. -/
def markdownTokens : Tokenizer := fun text =>
  (Markdown.fences text).map fun f => .fence f.info f.content (some f.start)

/-- The Markdown blocks of a document, down to the depth `limit` if there is one.  Every level
takes at least one line, so the number of lines bounds the levels.  Nothing else does: blocks are
found however deep they nest. -/
def extract (text : String) (o : Origin := {}) (limit : Option Int := none) : List Block :=
  blocksOf markdownTokens (o.levels limit (Markdown.linesOf text).size) o text

end FenceLint
