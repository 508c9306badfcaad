import FenceLint.Json.Writer
import FenceLint.Markup.Console
import FenceLint.Report

/-!
# Reports as JSON

The document that describes a report: the files, the blocks with findings, and the totals.  Its
texts are made of characters, and an output takes all of them; a half of a surrogate pair, which it
could not take, does not stand in any text.
-/

namespace FenceLint

/-- A value that may be missing. -/
def Json.Value.ofOption {α : Type} (f : α → Json.Value) : Option α → Json.Value
  | some a => f a
  | none => .null

namespace Report

/-- A finding and its line in the top file. -/
def findingValue (f : Finding) (line : Int) : Json.Value :=
  .object
    [("line_number", .int line),
     ("nested_line_number", .int f.line),
     ("column", .ofOption .int f.column),
     ("rule_names", .list (f.ruleNames.map .str)),
     ("description", .str f.description),
     ("detail", .ofOption .str f.detail)]

/-- A block with findings. -/
def entryValue (e : BlockReport) : Json.Value :=
  .object
    [("file_path", .str e.file),
     ("block_index", .int e.index),
     ("block_line", .int e.block.line),
     ("depth", .int e.block.depth),
     ("path", .str e.block.trail),
     ("info", .str e.block.info),
     ("findings", .list (e.located.map fun (f, line) => findingValue f line))]

/-- The document. -/
def toFields (r : Report) : Json.Fields :=
  [("files", .list (r.files.map fun f =>
      .object [("file_path", .str f.file), ("blocks", .int f.blocks)])),
   ("issues", .list (r.entries.map entryValue)),
   ("summary", .object
      [("total_files", .int r.totalFiles),
       ("total_blocks", .int r.totalBlocks),
       ("total_findings", .int r.totalFindings),
       ("passed", .bool r.passed)])]

/-- What is printed for the document: its text, which a line feed ends, or nothing. -/
def json (r : Report) : Markup.Printed :=
  match Json.write? (.object r.toFields) with
  | some text => { text := text ++ "\n" }
  | none => { fault := some .longNumber }

end Report

end FenceLint
