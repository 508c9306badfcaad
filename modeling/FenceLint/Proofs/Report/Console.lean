import FenceLint.Proofs.Markup.Printed
import FenceLint.Proofs.Report.Lines

/-!
# Reports show their texts

The report on a console prints the markup of its lines, one after the other (`report_eq`).  A plain
console that is wide enough prints their texts exactly if all that comes from outside is shown as it
is; what keeps a text from being shown is named by `ReportLine.IsShown`.

Main statement: `ReportStyle.report_shown_iff`.
-/

namespace FenceLint

open Markup

namespace ReportLine

/-! ## Markup -/

/-- What is printed for a line. -/
def print (c : Console) (l : ReportLine) : Printed := c.printNumbers l.numbers l.line.markup

theorem markup_blank : blank.line.markup = "" := by
  change (Line.mk "" []).markup = ""
  rw [Line.markup_nil, IsWords.escape_eq (by decide)]

theorem markup_total (blocks : Nat) :
    (total blocks).line.markup = "Total nested Markdown blocks found: " ++ toString blocks := by
  change (Line.mk ("Total nested Markdown blocks found: " ++ toString blocks) []).markup = _
  rw [Line.markup_nil, (total_colon blocks).1.escape_eq]

theorem markup_clean : clean.line.markup =
    "[green]✓[/green] No issues found in nested Markdown code fences" := by
  change (Line.mk "" [⟨"green", "✓", " No issues found in nested Markdown code fences"⟩]).markup = _
  rw [Line.markup_cons, Line.markup_nil, IsWords.escape_eq (by decide),
    IsWords.escape_eq (by decide), IsWords.escape_eq (by decide)]
  rfl

theorem markup_passed : passed.line.markup =
    "[bold green]✓[/bold green] [green]Nested Markdown linting passed[/green]" := by
  change (Line.mk "" [⟨"bold green", "✓", " "⟩,
    ⟨"green", "Nested Markdown linting passed", ""⟩]).markup = _
  rw [Line.markup_cons, Line.markup_cons, Line.markup_nil, IsWords.escape_eq (by decide),
    IsWords.escape_eq (by decide), IsWords.escape_eq (by decide), IsWords.escape_eq (by decide)]
  rfl

theorem markup_issues : issues.line.markup =
    "[bold red]Nested Markdown Linting Issues:[/bold red]" := by
  change (Line.mk "" [⟨"bold red", "Nested Markdown Linting Issues:", ""⟩]).markup = _
  rw [Line.markup_cons, Line.markup_nil, IsWords.escape_eq (by decide),
    IsWords.escape_eq (by decide)]
  rfl

theorem markup_file (path : String) :
    (file path).line.markup = "[cyan]File:[/cyan] " ++ escape path := by
  have hblank : IsWords " " := by decide
  change (Line.mk "" [⟨"cyan", "File:", " " ++ path⟩]).markup = _
  rw [Line.markup_cons, Line.markup_nil, hblank.escape_append, IsWords.escape_eq (by decide),
    IsWords.escape_eq (by decide), ← String.append_assoc, ← String.append_assoc]
  rfl

theorem markup_finding (b : Block) (f : Finding) :
    (finding b f).line.markup = ReportStyle.findingMarkup b f (b.fileLine f) := by
  have hblank : IsWords " " := by decide
  change (Line.mk (place b f) [⟨"red", String.intercalate "/" f.ruleNames,
    " " ++ f.description⟩]).markup = _
  rw [Line.markup_cons, Line.markup_nil, (place_colon b f).1.escape_eq, hblank.escape_append]
  unfold place ReportStyle.findingMarkup
  rw [← String.toList_inj]
  simp [String.toList_append]

theorem markup_detail (text : String) :
    (detail text).line.markup = ReportStyle.detailMarkup text := by
  change (Line.mk "      " [⟨"yellow", text, ""⟩]).markup = _
  unfold ReportStyle.detailMarkup
  rw [Line.markup_cons, Line.markup_nil, IsWords.escape_eq (s := "      ") (by decide),
    IsWords.escape_eq (s := "") (by decide), ← String.toList_inj]
  simp [String.toList_append]

theorem markup_failed (findings blocks : Nat) : (failed findings blocks).line.markup =
    "[bold red]✗[/bold red] [red]Nested Markdown linting failed[/red] [dim](" ++
      toString findings ++ " issue(s) in " ++ toString blocks ++ " block(s))[/dim]" := by
  change (Line.mk "" [⟨"bold red", "✗", " "⟩, ⟨"red", "Nested Markdown linting failed", " "⟩,
    ⟨"dim", "(" ++ toString findings ++ " issue(s) in " ++ toString blocks ++ " block(s))",
      ""⟩]).markup = _
  rw [Line.markup_cons, Line.markup_cons, Line.markup_cons, Line.markup_nil,
    (isPlainWords_failed findings blocks).1.escape_eq, IsWords.escape_eq (s := "") (by decide),
    IsWords.escape_eq (s := "✗") (by decide), IsWords.escape_eq (s := " ") (by decide),
    IsWords.escape_eq (s := "Nested Markdown linting failed") (by decide), ← String.toList_inj]
  simp [String.toList_append]

theorem markup_scanned (path : String) (blocks : Int) : (scanned path blocks).line.markup =
    "[cyan]" ++ escape path ++ "[/cyan]: Found " ++ toString blocks ++
      " nested Markdown block(s)" := by
  change (Line.mk "" [⟨"cyan", path,
    ": Found " ++ toString blocks ++ " nested Markdown block(s)"⟩]).markup = _
  rw [Line.markup_cons, Line.markup_nil, (found_colon blocks).1.escape_eq,
    IsWords.escape_eq (s := "") (by decide), ← String.toList_inj]
  simp [String.toList_append]

theorem escape_blockText {b : Block} (hb : b.Headed) (showTrail : Bool) (index : Nat) :
    escape (blockText showTrail b index) = " (" ++ escape b.info ++ " block #" ++ toString index ++
      ")" ++ (if showTrail && !b.trail.isEmpty then " (" ++ escape b.trail ++ ")" else "") ++
        ":" := by
  have hheading := (isPlainWords_heading hb index).1
  have hlast : b.trail.toList.getLast? ≠ some '\\' := by
    obtain ⟨before, htrail⟩ := hb.signed
    have hend : b.trail.toList.getLast? = (' ' :: (toString b.line).toList).getLast? := by
      simp [htrail, List.getLast?_append, List.getLast?_cons]
    rw [hend]
    intro hlast
    rcases List.mem_cons.mp (List.mem_of_getLast? hlast) with h | h
    · exact absurd h (by decide)
    · exact (isPlainWords_int b.line).1.not_mem.2.2 h
  rw [hb.words.1.escape_eq, blockText]
  split
  · have hopening : IsWords " (" := by decide
    have hclosing : IsWords "):" := by decide
    have htext : " (" ++ b.info ++ " block #" ++ toString index ++ ")" ++
        (" (" ++ b.trail ++ ")") ++ ":" = " (" ++ b.info ++ " block #" ++ toString index ++ ")" ++
          (" (" ++ (b.trail ++ "):")) := by
      rw [← String.toList_inj]
      simp [String.toList_append]
    simp only [htext]
    rw [hheading.escape_append, hopening.escape_append, hclosing.escape_append_right hlast,
      ← String.toList_inj]
    simp [String.toList_append]
  · have hcolon : IsWords ":" := by decide
    have hempty : IsWords "" := by decide
    exact IsWords.escape_eq (isWords_append.mpr ⟨isWords_append.mpr ⟨hheading, hempty⟩, hcolon⟩)

theorem markup_heading (s : ReportStyle) {e : BlockReport} (he : e.block.Headed) :
    (heading s.showTrails e.block e.index).line.markup = s.blockMarkup e := by
  have hlead : escape "  " = "  " := IsWords.escape_eq (by decide)
  have hblank : escape " " = " " := IsWords.escape_eq (by decide)
  have hempty : escape "" = "" := IsWords.escape_eq (by decide)
  have hopening := (isPlainWords_opening e.block).1.escape_eq
  have hdepth := (isPlainWords_depth e.block).1.escape_brackets (starts_depth e.block)
  have hblock := escape_blockText he s.showTrails e.index
  change (Line.mk "  " (headingSpans s.showTrails e.block e.index)).markup = _
  rw [headingSpans]
  unfold ReportStyle.blockMarkup
  by_cases hpos : 0 < e.block.depth
  · have htext : "[depth " ++ toString e.block.depth ++ "]" =
        "[" ++ ("depth " ++ toString e.block.depth) ++ "]" := by
      rw [← String.toList_inj]
      simp [String.toList_append]
    simp only [if_pos hpos, Line.markup_cons, Line.markup_nil, htext, hdepth, hopening, hlead,
      hblank, hempty, hblock]
    rw [← String.toList_inj]
    simp [String.toList_append]
  · simp only [if_neg hpos, Line.markup_cons, Line.markup_nil, hopening, hlead, hempty, hblock]
    rw [← String.toList_inj]
    simp [String.toList_append]

/-! ## Printing -/

/-- A plain console that is wide enough prints what the markup of a line shows, unless a number in
the line has too many digits. -/
theorem print_eq {c : Console} (hplain : c.ansi = false) {l : ReportLine} (hvalid : l.IsValid)
    (hholds : c.Holds l.line.markup) :
    l.print c = if l.isShort then
      { text := String.ofList (visible l.line.markup.toList ++ ['\n']) }
    else { fault := some .longNumber } := by
  rw [print, Console.printNumbers, Console.print_markup hplain (shownIff hvalid).isSound hholds]
  rfl

/-- What is printed for lines: what they show, up to the first number that has too many digits. -/
theorem join_print {c : Console} (hplain : c.ansi = false) {ls : List ReportLine}
    (hvalid : ∀ l ∈ ls, l.IsValid) (hholds : ∀ l ∈ ls, c.Holds l.line.markup) :
    Printed.join (ls.map (·.print c)) =
      { text := String.ofList ((ls.takeWhile isShort).flatMap fun l =>
          visible l.line.markup.toList ++ ['\n'])
        fault := if ls.all isShort then none else some .longNumber } := by
  induction ls with
  | nil => rfl
  | cons l ls ih =>
    rw [List.forall_mem_cons] at hvalid hholds
    have hjoin : Printed.join ((l :: ls).map (·.print c)) =
        l.print c ++ Printed.join (ls.map (·.print c)) := rfl
    rw [hjoin, print_eq hplain hvalid.1 hholds.1, ih hvalid.2 hholds.2]
    by_cases hshort : l.isShort = true
    · rw [if_pos hshort, Printed.append_of_no_fault _ _ rfl]
      simp [List.takeWhile_cons_of_pos hshort, hshort, String.ofList_append, String.append_assoc]
    · rw [if_neg hshort, Printed.append_of_fault _ _ rfl, List.takeWhile_cons_of_neg hshort,
        List.all_cons, Bool.eq_false_iff.mpr hshort]
      rfl

/-- A console with two columns for every character of a line that is shown as it is does not wrap
it. -/
theorem holds_of_width {c : Console} {l : ReportLine} (hvalid : l.IsValid) (hshown : l.IsShown)
    (hfeed : '\n' ∉ l.line.text.toList) (htab : '\t' ∉ l.line.text.toList)
    (hwidth : 2 * l.line.text.length ≤ c.width) : c.Holds l.line.markup :=
  Console.holds_of_width (shownIff hvalid).isSound ((showsIf hvalid).1 hshown) hfeed htab
    (by simpa [String.length_toList] using hwidth)

/-- Lines are shown as they are meant exactly if what comes from outside is shown as it is. -/
theorem flatMap_visible_iff {ls : List ReportLine} (hvalid : ∀ l ∈ ls, l.IsValid) :
    (ls.flatMap fun l => visible l.line.markup.toList ++ ['\n']) =
      (ls.flatMap fun l => l.line.text.toList ++ ['\n']) ↔ ∀ l ∈ ls, l.IsShown := by
  have hsame : ∀ l ∈ ls, l.IsShown →
      visible l.line.markup.toList ++ ['\n'] = l.line.text.toList ++ ['\n'] := by
    intro l hl hshown
    rw [(showsIf (hvalid l hl)).1 hshown]
  constructor
  · intro heq
    by_contra hnot
    have hparted := Text.PartedBy.flatMap hsame (fun l hl h => (showsIf (hvalid l hl)).2 h) hnot
    exact Text.Parted.ne hparted heq
  · exact fun hshown => List.flatMap_congr fun l hl => hsame l hl (hshown l hl)

end ReportLine

/-! ## Reports -/

namespace ReportStyle

theorem print_of_no_numbers (c : Console) {l : ReportLine} (h : l.numbers = []) :
    l.print c = c.print l.line.markup := by
  rw [ReportLine.print, h, Console.printNumbers]
  exact if_pos rfl

theorem print_blank (c : Console) : ReportLine.blank.print c = Console.blankLine := by
  have hwrap : wrap c.width [] = [[]] := wrap_eq (by simp) (by simp) (Nat.zero_le c.width)
  have hrender : render "" = .ok [] := rfl
  rw [print_of_no_numbers c rfl, ReportLine.markup_blank, Console.print, hrender]
  simp only [hwrap]
  rfl

/-- The lines of a detail print it, unless it is empty. -/
theorem join_print_detailLines (s : ReportStyle) (f : Finding) :
    Printed.join (f.detailLines.map (·.print s.console)) =
      f.detail.elim {} fun d => if d.isEmpty then {} else s.console.print (detailMarkup d) := by
  rw [Finding.detailLines]
  cases f.detail with
  | none => rfl
  | some d =>
    rw [Option.elim_some]
    by_cases hd : d.isEmpty = true
    · simp only [if_pos hd]
      rfl
    · simp only [if_neg hd]
      change ReportLine.print _ _ ++ {} = _
      rw [Printed.append_nil, print_of_no_numbers _ rfl, ReportLine.markup_detail]

/-- The report of a block prints its lines. -/
theorem entry_eq (s : ReportStyle) {e : BlockReport} (he : e.block.Headed) :
    s.entry e = Printed.join ((e.consoleLines s.showTrails).map (·.print s.console)) := by
  have hfile : (ReportLine.file e.file).print s.console =
      s.console.print ("[cyan]File:[/cyan] " ++ escape e.file) := by
    rw [print_of_no_numbers _ rfl, ReportLine.markup_file]
  have hheading : (ReportLine.heading s.showTrails e.block e.index).print s.console =
      s.console.printNumbers (e.block.line :: if 0 < e.block.depth then [e.block.depth] else [])
        (s.blockMarkup e) := by
    rw [ReportLine.print, ReportLine.markup_heading s he]
    rfl
  have hfinding : ∀ f, Printed.join ((f.consoleLines e.block).map (·.print s.console)) =
      s.console.printNumbers
          (e.block.fileLine f :: f.column.getD 1 :: if 0 < e.block.depth then [f.line] else [])
          (findingMarkup e.block f (e.block.fileLine f)) ++
        f.detail.elim {} fun d => if d.isEmpty then {} else s.console.print (detailMarkup d) := by
    intro f
    rw [Finding.consoleLines, List.map_cons]
    change ReportLine.print _ _ ++ Printed.join _ = _
    rw [ReportLine.print, ReportLine.markup_finding, s.join_print_detailLines]
    rfl
  have hfindings : Printed.join
      ((e.findings.flatMap (·.consoleLines e.block)).map (·.print s.console)) =
        Printed.join (e.findings.map fun f =>
          Printed.join ((f.consoleLines e.block).map (·.print s.console))) := by
    rw [List.map_flatMap, Printed.join_flatMap]
  rw [BlockReport.consoleLines, List.map_cons, List.map_cons, List.map_append]
  change _ = ReportLine.print _ _ ++ (ReportLine.print _ _ ++ Printed.join _)
  rw [Printed.join_append, hfindings, List.map_congr_left fun f _ => hfinding f, hfile, hheading]
  change _ = _ ++ (_ ++ (_ ++ (ReportLine.print s.console .blank ++ {})))
  rw [Printed.append_nil, print_blank, ← Printed.append_assoc, ← Printed.append_assoc]
  unfold entry
  dsimp only
  rw [BlockReport.located, List.map_map]
  refine congrArg₂ HAppend.hAppend (congrArg₂ HAppend.hAppend rfl (congrArg Printed.join ?_)) rfl
  refine List.map_congr_left fun f _ => ?_
  rw [Function.comp_apply]
  cases f.detail <;> rfl

/-- A report prints its lines. -/
theorem report_eq (s : ReportStyle) {r : Report} (hr : ∀ e ∈ r.entries, e.block.Headed) :
    s.report r = Printed.join ((r.consoleLines s.showTrails).map (·.print s.console)) := by
  have hentries : Printed.join
      ((r.entries.flatMap (·.consoleLines s.showTrails)).map (·.print s.console)) =
        Printed.join (r.entries.map s.entry) := by
    rw [List.map_flatMap, Printed.join_flatMap,
      List.map_congr_left fun e he => (s.entry_eq (hr e he)).symm]
  have hprint : ∀ l : ReportLine, l.numbers = [] →
      l.print s.console = s.console.print l.line.markup := fun l => print_of_no_numbers s.console
  have htotal := hprint (.total r.totalBlocks) rfl
  rw [ReportLine.markup_total] at htotal
  rw [Report.consoleLines, List.map_append, Printed.join_append]
  unfold report
  dsimp only
  split
  · have hclean := hprint .clean rfl
    have hpassed := hprint .passed rfl
    rw [ReportLine.markup_clean] at hclean
    rw [ReportLine.markup_passed] at hpassed
    change _ = ReportLine.print _ _ ++ (ReportLine.print _ _ ++ (ReportLine.print _ _ ++ {})) ++
      (ReportLine.print _ _ ++ (ReportLine.print _ _ ++ (ReportLine.print _ _ ++ {})))
    rw [Printed.append_nil, Printed.append_nil, print_blank, htotal, hclean, hpassed]
    simp only [Printed.append_assoc]
  · have hissues := hprint .issues rfl
    have hfailed := hprint (.failed r.totalFindings r.entries.length) rfl
    rw [ReportLine.markup_issues] at hissues
    rw [ReportLine.markup_failed] at hfailed
    rw [List.map_append, List.map_append, Printed.join_append, Printed.join_append, hentries]
    change _ = ReportLine.print _ _ ++ (ReportLine.print _ _ ++ (ReportLine.print _ _ ++ {})) ++
      (ReportLine.print _ _ ++ (ReportLine.print _ _ ++ {}) ++ _ ++ (ReportLine.print _ _ ++ {}))
    rw [Printed.append_nil, Printed.append_nil, print_blank, htotal, hissues, hfailed]
    simp only [Printed.append_assoc]

/-- The text of lines. -/
def textOf (ls : List ReportLine) : String := String.join (ls.map fun l => l.line.text ++ "\n")

theorem toList_textOf (ls : List ReportLine) :
    (textOf ls).toList = ls.flatMap fun l => l.line.text.toList ++ ['\n'] := by
  simp [textOf, List.flatMap_map, String.toList_append]

/-! What comes from outside in a valid report is valid in its lines. -/

theorem isValid_of_mem_detailLines {f : Finding}
    (hstrings : ∀ text ∈ f.strings, NoControl text.toList) : ∀ l ∈ f.detailLines, l.IsValid := by
  rw [Finding.strings, List.forall_mem_append, List.forall_mem_cons] at hstrings
  rw [Finding.detailLines]
  split
  · next d hd =>
    split
    · simp
    · exact List.forall_mem_singleton.mpr (hstrings.2.2 d (by simp [hd]))
  · simp

theorem isValid_of_mem_entryLines {showTrails : Bool} {e : BlockReport} (he : e.block.Headed)
    (hstrings : ∀ text ∈ e.strings, NoControl text.toList) :
    ∀ l ∈ e.consoleLines showTrails, l.IsValid := by
  rw [BlockReport.strings, List.forall_mem_cons] at hstrings
  have hfinding : ∀ f ∈ e.findings, ∀ l ∈ f.consoleLines e.block, l.IsValid := by
    intro f hf
    have htexts : ∀ text ∈ f.strings, NoControl text.toList := fun text htext =>
      hstrings.2 text (List.mem_flatMap.mpr ⟨f, hf, htext⟩)
    have hdetail := isValid_of_mem_detailLines htexts
    rw [Finding.strings, List.forall_mem_append, List.forall_mem_cons] at htexts
    exact List.forall_mem_cons.mpr ⟨⟨htexts.1, htexts.2.1⟩, hdetail⟩
  rw [BlockReport.consoleLines, List.forall_mem_cons, List.forall_mem_cons,
    List.forall_mem_append]
  refine ⟨hstrings.1, he, fun l hl => ?_, by simp [ReportLine.IsValid]⟩
  obtain ⟨f, hf, hl⟩ := List.mem_flatMap.mp hl
  exact hfinding f hf l hl

theorem isValid_of_mem_consoleLines {showTrails : Bool} {r : Report}
    (hblocks : ∀ e ∈ r.entries, e.block.Headed)
    (hstrings : ∀ e ∈ r.entries, ∀ text ∈ e.strings, NoControl text.toList) :
    ∀ l ∈ r.consoleLines showTrails, l.IsValid := by
  rw [Report.consoleLines, List.forall_mem_append]
  refine ⟨by simp [ReportLine.IsValid], ?_⟩
  split
  · simp [ReportLine.IsValid]
  · rw [List.forall_mem_append, List.forall_mem_append]
    refine ⟨⟨by simp [ReportLine.IsValid], fun l hl => ?_⟩, by simp [ReportLine.IsValid]⟩
    obtain ⟨e, he, hl⟩ := List.mem_flatMap.mp hl
    exact isValid_of_mem_entryLines (hblocks e he) (hstrings e he) l hl

/-- What a plain console that is wide enough prints of lines: their texts exactly if all that comes
from outside in them is shown as it is. -/
theorem text_join_print_iff {c : Console} (hplain : c.ansi = false) {ls : List ReportLine}
    (hvalid : ∀ l ∈ ls, l.IsValid) (hholds : ∀ l ∈ ls, c.Holds l.line.markup) :
    (Printed.join (ls.map (·.print c))).text = textOf (ls.takeWhile ReportLine.isShort) ↔
      ∀ l ∈ ls.takeWhile ReportLine.isShort, l.IsShown := by
  have hsub : ∀ l ∈ ls.takeWhile ReportLine.isShort, l.IsValid :=
    fun l hl => hvalid l ((List.takeWhile_sublist _).subset hl)
  rw [ReportLine.join_print hplain hvalid hholds, ← ReportLine.flatMap_visible_iff hsub,
    ← toList_textOf, ← String.toList_inj, String.toList_ofList]

/-- On a plain console that does not wrap the lines, a report shows the texts of its lines, with all
that comes from outside as it is, exactly if escaping and reading the markup change no such text in
its place (`ReportLine.IsShown`), and so does the progress of a run.  A number with too many digits
ends the printing before its line, and nothing else does. -/
theorem report_shown_iff (s : ReportStyle) (r : Report) (hplain : s.console.ansi = false)
    (hblocks : ∀ e ∈ r.entries, ∃ text o limit,
      NoControl o.trail.toList ∧ e.block ∈ extract text o limit)
    (hstrings : ∀ e ∈ r.entries, ∀ text ∈ e.strings, NoControl text.toList)
    (hholds : ∀ l ∈ r.consoleLines s.showTrails, s.console.Holds l.line.markup) :
    let printed := (r.consoleLines s.showTrails).takeWhile ReportLine.isShort
    ((s.report r).text = textOf printed ↔ ∀ l ∈ printed, l.IsShown) ∧
      ((s.report r).fault = none ↔ printed = r.consoleLines s.showTrails) ∧
      ∀ path blocks, NoControl path.toList → 0 < blocks →
        s.console.Holds (ReportLine.scanned path blocks).line.markup →
          ((s.scanned path blocks).text = textOf [.scanned path blocks] ↔
            (ReportLine.scanned path blocks).IsShown) := by
  have hheaded : ∀ e ∈ r.entries, e.block.Headed := by
    intro e he
    obtain ⟨text, o, limit, ho, hb⟩ := hblocks e he
    exact headed_of_mem_blocksOf ho hb
  have hvalid : ∀ l ∈ r.consoleLines s.showTrails, l.IsValid :=
    isValid_of_mem_consoleLines hheaded hstrings
  refine ⟨?_, ?_, fun path blocks hpath hpos hwide => ?_⟩
  · rw [report_eq s hheaded]
    exact text_join_print_iff hplain hvalid hholds
  · rw [report_eq s hheaded, ReportLine.join_print hplain hvalid hholds, List.takeWhile_eq_self_iff,
      ← List.all_eq_true]
    split
    · next hall => exact iff_of_true rfl hall
    · next hall => exact iff_of_false (by simp) hall
  · have hline : ∀ l ∈ [ReportLine.scanned path blocks],
        l.IsValid ∧ s.console.Holds l.line.markup :=
      List.forall_mem_singleton.mpr ⟨hpath, hwide⟩
    have hshort : [ReportLine.scanned path blocks].takeWhile ReportLine.isShort =
        [.scanned path blocks] := rfl
    have hscanned : s.scanned path blocks =
        Printed.join ([ReportLine.scanned path blocks].map (·.print s.console)) := by
      change _ = ReportLine.print _ _ ++ {}
      rw [Printed.append_nil, print_of_no_numbers _ rfl, ReportLine.markup_scanned, scanned,
        if_pos hpos]
    have htext := text_join_print_iff hplain (fun l hl => (hline l hl).1) fun l hl => (hline l hl).2
    rwa [← hscanned, hshort, List.forall_mem_singleton] at htext

/-- Texts that look like styles and escapes are shown as they are: those of a finding in a block
inside a block, and the path of a scanned file. -/
theorem report_shown_hostile_texts :
    let text := "````md\n- a\n\n  ```md\n  # b\n  ```\n````\n"
    let b : Block := ⟨"# b\n", 4, 1, "line 1 > block at line 4", "md", "a.md"⟩
    let f : Finding := ⟨["MD[b]", "[/red]\\"], "\\[x] and [/ or \\\\[bold]", 1, some 1,
      some "[/yellow]\\"⟩
    let r : Report := ⟨[⟨"[docs]/a.md", 2, [⟨"[docs]/a.md", b, 2, [f]⟩]⟩]⟩
    let s : ReportStyle := { console := { width := 200 } }
    b ∈ extract text { file := "a.md" } ∧ (s.report r).text =
      "\nTotal nested Markdown blocks found: 2\n\nNested Markdown Linting Issues:\n\n" ++
      "File: [docs]/a.md\n" ++
      "  Code fence at line 4 [depth 1] (md block #2) (line 1 > block at line 4):\n" ++
      "    5:1 (nested line 1) MD[b]/[/red]\\ \\[x] and [/ or \\\\[bold]\n" ++
      "      [/yellow]\\\n\n" ++
      "✗ Nested Markdown linting failed (1 issue(s) in 1 block(s))\n" ∧
      (s.scanned "[cyan]\\" 2).text = "[cyan]\\: Found 2 nested Markdown block(s)\n" := by
  intro text b f r s
  have hb : b ∈ extract text { file := "a.md" } := by decide +kernel
  have hblocks : ∀ e ∈ r.entries, ∃ text o limit,
      NoControl o.trail.toList ∧ e.block ∈ extract text o limit :=
    List.forall_mem_singleton.mpr ⟨text, { file := "a.md" }, none, by decide, hb⟩
  have hstrings : ∀ e ∈ r.entries, ∀ text ∈ e.strings, NoControl text.toList := by decide +kernel
  have hheaded : ∀ e ∈ r.entries, e.block.Headed :=
    List.forall_mem_singleton.mpr (headed_of_mem_blocksOf (by decide) hb)
  have hvalid : ∀ l ∈ .scanned "[cyan]\\" 2 :: r.consoleLines s.showTrails, l.IsValid :=
    List.forall_mem_cons.mpr
      ⟨(by decide : NoControl "[cyan]\\".toList), isValid_of_mem_consoleLines hheaded hstrings⟩
  have hlines : ∀ l ∈ .scanned "[cyan]\\" 2 :: r.consoleLines s.showTrails, l.IsShown ∧
      '\n' ∉ l.line.text.toList ∧ '\t' ∉ l.line.text.toList ∧
        2 * l.line.text.length ≤ s.console.width := by decide +kernel
  have hholds : ∀ l ∈ .scanned "[cyan]\\" 2 :: r.consoleLines s.showTrails,
      s.console.Holds l.line.markup := by
    intro l hl
    obtain ⟨hshown, hfeed, htab, hwidth⟩ := hlines l hl
    exact ReportLine.holds_of_width (hvalid l hl) hshown hfeed htab hwidth
  rw [List.forall_mem_cons] at hholds hlines
  obtain ⟨htext, -, hscanned⟩ := report_shown_iff s r rfl hblocks hstrings hholds.2
  refine ⟨hb, (htext.mpr fun l hl => ?_).trans (by decide +kernel), ?_⟩
  · exact (hlines.2 l ((List.takeWhile_sublist _).subset hl)).1
  · exact ((hscanned _ 2 (by decide) (by decide) hholds.1).mpr hlines.1.1).trans (by decide +kernel)

/-- Backslashes are lost before the end of a style, and one is added at the end of a line. -/
theorem backslashes_not_shown :
    let b : Block := ⟨"x\n", 1, 0, "line 1", "md", "a.md"⟩
    let f : Finding := ⟨["MD001"], "ends in \\", 1, some 1, some "ends in \\\\"⟩
    let r : Report := ⟨[⟨"a.md", 1, [⟨"a.md", b, 1, [f]⟩]⟩]⟩
    let s : ReportStyle := { console := { width := 200 } }
    b ∈ extract "```md\nx\n```\n" { file := "a.md" } ∧
      (∀ e ∈ r.entries, ∀ text ∈ e.strings, NoControl text.toList) ∧
      (s.report r).text =
        "\nTotal nested Markdown blocks found: 1\n\nNested Markdown Linting Issues:\n\n" ++
        "File: a.md\n  Code fence at line 1 (md block #1) (line 1):\n" ++
        "    2:1 MD001 ends in \\\\\n      ends in \\\n\n" ++
        "✗ Nested Markdown linting failed (1 issue(s) in 1 block(s))\n" ∧
      textOf (r.consoleLines s.showTrails) =
        "\nTotal nested Markdown blocks found: 1\n\nNested Markdown Linting Issues:\n\n" ++
        "File: a.md\n  Code fence at line 1 (md block #1) (line 1):\n" ++
        "    2:1 MD001 ends in \\\n      ends in \\\\\n\n" ++
        "✗ Nested Markdown linting failed (1 issue(s) in 1 block(s))\n" := by
  decide +kernel

end ReportStyle

end FenceLint
