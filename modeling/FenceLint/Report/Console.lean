import FenceLint.Markup.Console
import FenceLint.Report

/-!
# Reports on a console

The progress of a run and its findings as console text.  All strings that come from outside are
escaped, so that they are shown as they are; only an opening bracket in the info string of a block
and a closing one in its trail can still form a tag together.
-/

namespace FenceLint

/-- How a report is shown. -/
structure ReportStyle where
  /-- The console. -/
  console : Markup.Console
  /-- Whether the trail of each block is shown. -/
  showTrails : Bool := true
deriving Repr, DecidableEq, Inhabited

namespace ReportStyle

/-- What is shown when a run starts. -/
def start (s : ReportStyle) : Markup.Printed :=
  s.console.print "[bold]Linting nested Markdown in code fences...[/bold]" ++
    Markup.Console.blankLine

/-- What is shown when the files are known. -/
def discovered (s : ReportStyle) (files : Int) : Markup.Printed :=
  s.console.print ("Found " ++ toString files ++ " Markdown file(s) to scan") ++
    Markup.Console.blankLine

/-- What is shown when a file has been scanned; files without blocks are passed over. -/
def scanned (s : ReportStyle) (file : String) (blocks : Int) : Markup.Printed :=
  if 0 < blocks then
    s.console.print
      ("[cyan]" ++ Markup.escape file ++ "[/cyan]: Found " ++ toString blocks ++
        " nested Markdown block(s)")
  else {}

/-- The heading of a block. -/
def blockMarkup (s : ReportStyle) (e : BlockReport) : String :=
  let b := e.block
  let depth :=
    if 0 < b.depth then " [yellow]\\[depth " ++ toString b.depth ++ "][/yellow]" else ""
  let trail :=
    if s.showTrails && !b.trail.isEmpty then " (" ++ Markup.escape b.trail ++ ")" else ""
  "  [yellow]Code fence at line " ++ toString b.line ++ "[/yellow]" ++ depth ++
    "[yellow] (" ++ Markup.escape b.info ++ " block #" ++ toString e.index ++ ")" ++ trail ++
    ":[/yellow]"

/-- The line of a finding. -/
def findingMarkup (b : Block) (f : Finding) (line : Int) : String :=
  let nested := if 0 < b.depth then " (nested line " ++ toString f.line ++ ")" else ""
  "    " ++ toString line ++ ":" ++ toString (f.column.getD 1) ++ nested ++ " [red]" ++
    Markup.escape (String.intercalate "/" f.ruleNames) ++ "[/red] " ++ Markup.escape f.description

/-- The line of a detail. -/
def detailMarkup (detail : String) : String :=
  "      [yellow]" ++ Markup.escape detail ++ "[/yellow]"

/-- A block with its findings. -/
def entry (s : ReportStyle) (e : BlockReport) : Markup.Printed :=
  let nested := fun (n : Int) => if 0 < e.block.depth then [n] else []
  let finding := fun (f : Finding) (line : Int) =>
    s.console.printNumbers (line :: f.column.getD 1 :: nested f.line)
        (findingMarkup e.block f line) ++
      match f.detail with
      | some d => if d.isEmpty then {} else s.console.print (detailMarkup d)
      | none => {}
  s.console.print ("[cyan]File:[/cyan] " ++ Markup.escape e.file) ++
    s.console.printNumbers (e.block.line :: nested e.block.depth) (s.blockMarkup e) ++
    Markup.Printed.join (e.located.map fun (f, line) => finding f line) ++
    Markup.Console.blankLine

/-- The report. -/
def report (s : ReportStyle) (r : Report) : Markup.Printed :=
  let blank := Markup.Console.blankLine
  let head :=
    blank ++ s.console.print ("Total nested Markdown blocks found: " ++ toString r.totalBlocks) ++
      blank
  if r.passed then
    head ++
      s.console.print "[green]✓[/green] No issues found in nested Markdown code fences" ++ blank ++
      s.console.print
        "[bold green]✓[/bold green] [green]Nested Markdown linting passed[/green]"
  else
    head ++ s.console.print "[bold red]Nested Markdown Linting Issues:[/bold red]" ++ blank ++
      Markup.Printed.join (r.entries.map s.entry) ++
      s.console.print
        ("[bold red]✗[/bold red] [red]Nested Markdown linting failed[/red] [dim](" ++
          toString r.totalFindings ++ " issue(s) in " ++ toString r.entries.length ++
          " block(s))[/dim]")

end ReportStyle

end FenceLint
