import FenceLint.Proofs.Block.Relocation
import FenceLint.Proofs.Markup.Template
import FenceLint.Proofs.Text.Lower
import FenceLint.Report.Console

/-!
# The lines of a report on a console

A report on a console is a list of lines (`Report.consoleLines`), each with its text and its styles
(`ReportLine.line`).  Escaping a text does not always show it: `ReportLine.IsShown` says which texts
are shown as they are in their places, and a line is shown as it is meant exactly if they are
(`ReportLine.showsIf`).
-/

namespace FenceLint

open Markup

/-! ## The lines of a report -/

/-- A line of a report on a console. -/
inductive ReportLine where
  /-- Nothing. -/
  | blank
  /-- How many blocks there are. -/
  | total (blocks : Nat)
  /-- There are no findings. -/
  | clean
  /-- The report passed. -/
  | passed
  /-- There are findings. -/
  | issues
  /-- The file of a block. -/
  | file (path : String)
  /-- The heading of a block. -/
  | heading (showTrail : Bool) (b : Block) (index : Nat)
  /-- A finding in a block. -/
  | finding (b : Block) (f : Finding)
  /-- The detail of a finding. -/
  | detail (text : String)
  /-- The report failed. -/
  | failed (findings blocks : Nat)
  /-- A file with blocks has been scanned. -/
  | scanned (path : String) (blocks : Int)

namespace ReportLine

/-- The numbers in a line that may have too many digits. -/
def numbers : ReportLine → List Int
  | heading _ b _ => b.line :: if 0 < b.depth then [b.depth] else []
  | finding b f =>
    b.fileLine f :: f.column.getD 1 :: if 0 < b.depth then [f.line] else []
  | _ => []

/-- No number in the line has too many digits. -/
def isShort (l : ReportLine) : Bool := l.numbers.all Text.isShort

/-- What a heading says of a block besides its line and its depth. -/
def blockText (showTrail : Bool) (b : Block) (index : Nat) : String :=
  let trail := if showTrail && !b.trail.isEmpty then " (" ++ b.trail ++ ")" else ""
  " (" ++ b.info ++ " block #" ++ toString index ++ ")" ++ trail ++ ":"

/-- The styled parts of a heading. -/
def headingSpans (showTrail : Bool) (b : Block) (index : Nat) : List Span :=
  let opening := "Code fence at line " ++ toString b.line
  let block : Span := ⟨"yellow", blockText showTrail b index, ""⟩
  if 0 < b.depth then
    [⟨"yellow", opening, " "⟩, ⟨"yellow", "[depth " ++ toString b.depth ++ "]", ""⟩, block]
  else [⟨"yellow", opening, ""⟩, block]

/-- Where a finding is. -/
def place (b : Block) (f : Finding) : String :=
  let nested := if 0 < b.depth then " (nested line " ++ toString f.line ++ ")" else ""
  "    " ++ toString (b.fileLine f) ++ ":" ++ toString (f.column.getD 1) ++ nested ++ " "

/-- The text of a line with its styles: all that comes from outside stands in it as it is. -/
def line : ReportLine → Line
  | blank => {}
  | total blocks => { lead := "Total nested Markdown blocks found: " ++ toString blocks }
  | clean => { spans := [⟨"green", "✓", " No issues found in nested Markdown code fences"⟩] }
  | passed =>
    { spans := [⟨"bold green", "✓", " "⟩, ⟨"green", "Nested Markdown linting passed", ""⟩] }
  | issues => { spans := [⟨"bold red", "Nested Markdown Linting Issues:", ""⟩] }
  | file path => { spans := [⟨"cyan", "File:", " " ++ path⟩] }
  | heading showTrail b index => { lead := "  ", spans := headingSpans showTrail b index }
  | finding b f =>
    { lead := place b f
      spans := [⟨"red", String.intercalate "/" f.ruleNames, " " ++ f.description⟩] }
  | detail text => { lead := "      ", spans := [⟨"yellow", text, ""⟩] }
  | failed findings blocks =>
    { spans :=
        [⟨"bold red", "✗", " "⟩, ⟨"red", "Nested Markdown linting failed", " "⟩,
          ⟨"dim", "(" ++ toString findings ++ " issue(s) in " ++ toString blocks ++ " block(s))",
            ""⟩] }
  | scanned path blocks =>
    { spans := [⟨"cyan", path, ": Found " ++ toString blocks ++ " nested Markdown block(s)"⟩] }

/-- What comes from outside is shown as it is in the line. -/
def IsShown : ReportLine → Prop
  | file path => ShownAtEnd path.toList
  | heading showTrail b _ => showTrail = true → Settled b.trail.toList
  | finding _ f => ShownBeforeTag (String.intercalate "/" f.ruleNames).toList ∧
      ShownAtEnd f.description.toList
  | detail text | scanned text _ => ShownBeforeTag text.toList
  | _ => True

instance : DecidablePred IsShown
  | file path => inferInstanceAs (Decidable (ShownAtEnd path.toList))
  | heading showTrail b _ => inferInstanceAs (Decidable (showTrail = true → Settled b.trail.toList))
  | finding _ f => inferInstanceAs (Decidable
      (ShownBeforeTag (String.intercalate "/" f.ruleNames).toList ∧
        ShownAtEnd f.description.toList))
  | detail text | scanned text _ => inferInstanceAs (Decidable (ShownBeforeTag text.toList))
  | blank | total _ | clean | passed | issues | failed _ _ => inferInstanceAs (Decidable True)

end ReportLine

/-- The line of a detail, if there is one. -/
def Finding.detailLines (f : Finding) : List ReportLine :=
  match f.detail with
  | some d => if d.isEmpty then [] else [.detail d]
  | none => []

/-- The lines of a finding. -/
def Finding.consoleLines (b : Block) (f : Finding) : List ReportLine :=
  .finding b f :: f.detailLines

/-- The lines of a block with its findings. -/
def BlockReport.consoleLines (showTrails : Bool) (e : BlockReport) : List ReportLine :=
  .file e.file :: .heading showTrails e.block e.index ::
    (e.findings.flatMap (·.consoleLines e.block) ++ [.blank])

/-- The lines of a report. -/
def Report.consoleLines (showTrails : Bool) (r : Report) : List ReportLine :=
  [.blank, .total r.totalBlocks, .blank] ++
    if r.passed then [.clean, .blank, .passed]
    else
      [.issues, .blank] ++ r.entries.flatMap (·.consoleLines showTrails) ++
        [.failed r.totalFindings r.entries.length]

/-- The texts in a finding. -/
def Finding.strings (f : Finding) : List String := f.ruleNames ++ f.description :: f.detail.toList

/-- The texts in a block report, besides those of the block. -/
def BlockReport.strings (e : BlockReport) : List String :=
  e.file :: e.findings.flatMap Finding.strings

/-! ## Blocks of documents -/

/-- The language of the block is a word, and its trail ends in a number. -/
structure Block.Headed (b : Block) : Prop where
  words : IsPlainWords b.info
  signed : b.Signed
  noControl : NoControl b.trail.toList

theorem isPlainWords_of_isMarkdownInfo {info : String} (h : isMarkdownInfo info = true) :
    IsPlainWords (Text.strip info) := by
  have hlanguage : Text.lower (Text.strip info) ∈ markdownLanguages := by
    simpa [isMarkdownInfo] using h
  have hmarks : markChars.all (fun c => c.toNat < 128 &&
      markdownLanguages.all fun language => c.toLower ∉ language.toList) = true := by decide
  -- A character that plain words do not hold would stand in the lower case, too.
  refine isPlainWords_of_not_mem fun c hc hmem => ?_
  obtain ⟨hascii, hlanguages⟩ := Bool.and_eq_true_iff.mp (List.all_eq_true.mp hmarks c hc)
  exact of_decide_eq_true (List.all_eq_true.mp hlanguages _ hlanguage)
    (Text.toLower_mem_lower hmem (of_decide_eq_true hascii))

theorem Origin.headed_block {o : Origin} (ho : NoControl o.trail.toList) {info : String}
    (hinfo : isMarkdownInfo info = true) (content : String) (start : Option Int) :
    (o.block info content start).Headed := by
  refine ⟨isPlainWords_of_isMarkdownInfo hinfo, o.signed_block info content start, ?_⟩
  have hline := fun n : Int => (isPlainWords_int n).1.noControl
  unfold Origin.block
  dsimp only
  split
  · rw [String.toList_append, noControl_append]
    exact ⟨by decide, hline _⟩
  · rw [String.toList_append, String.toList_append, noControl_append, noControl_append]
    exact ⟨⟨ho, by decide⟩, hline _⟩

theorem headed_of_mem_blocksOf {tokenize : Tokenizer} {levels : Nat} {o : Origin} {text : String}
    (ho : NoControl o.trail.toList) {b : Block} (hb : b ∈ blocksOf tokenize levels o text) :
    b.Headed := by
  induction levels generalizing o text with
  | zero => simp [blocksOf] at hb
  | succ levels ih =>
    obtain ⟨outer, houter, hcases⟩ := exists_of_mem_blocksOf hb
    obtain ⟨info, content, start, -, hinfo, heq⟩ := Origin.exists_of_mem_direct houter
    have hheaded : outer.Headed := heq ▸ Origin.headed_block ho hinfo content start
    rcases hcases with rfl | hb
    · exact hheaded
    · exact ih hheaded.noControl hb

/-- Behind a trail there is no text that could go on with it. -/
theorem Block.Signed.settled_trail {b : Block} (hb : b.Signed) :
    Settled (b.trail ++ "):").toList ↔ Settled b.trail.toList := by
  obtain ⟨before, htrail⟩ := hb
  have hline := isPlainWords_int b.line
  have hplain : ∀ after : List Char, '[' ∉ after → ']' ∉ after → CodeFree (' ' :: after) →
      (Settled (before ++ ' ' :: after) ↔ Settled before) := by
    intro after hopen hclose hcode
    rw [settled_append before (by simpa using hopen) (by simpa using hclose)
      (emojiName?_of_blank (by decide) after)]
    exact and_iff_left hcode
  have hspaced : ':' ∉ ' ' :: (toString b.line).toList := by simpa using hline.2
  rw [String.toList_append, htrail, List.append_assoc, List.cons_append,
    hplain _ hline.1.not_mem.1 hline.1.not_mem.2.1 (codeFree_of_not_mem hspaced)]
  refine hplain _ (by simpa using hline.1.not_mem.1) (by simpa using hline.1.not_mem.2.1) ?_
  have hspaced' : ':' ∉ ' ' :: (toString b.line).toList ++ [')'] := by simpa using hline.2
  simpa using codeFree_of_colon hspaced' List.not_mem_nil

/-! ## Words of the report -/

/-- The names of the styles in a report. -/
def styleNames : List String := ["cyan", "yellow", "red", "green", "bold red", "bold green", "dim"]

theorem isStyle_of_mem {name : String} (h : name ∈ styleNames) : IsStyle name.toList := by
  have hnames : ∀ name ∈ styleNames, IsTagBody name.toList ∧ NoControl name.toList ∧
      name.toList.head? ≠ some '/' ∧ '=' ∉ name.toList := by decide
  have hnormal : ∀ name ∈ styleNames, Text.strip name = name ∧
      (StyleName.normalize name).toOption = some name := by decide +kernel
  obtain ⟨hbody, hcontrol, hslash, hequals⟩ := hnames name h
  exact isStyle_of_normalize hbody hcontrol hslash hequals (hnormal name h).1 (hnormal name h).2

namespace ReportLine

theorem isPlainWords_opening (b : Block) :
    IsPlainWords ("Code fence at line " ++ toString b.line) :=
  isPlainWords_append.mpr ⟨by decide, isPlainWords_int b.line⟩

theorem isPlainWords_depth (b : Block) : IsPlainWords ("depth " ++ toString b.depth) :=
  isPlainWords_append.mpr ⟨by decide, isPlainWords_int b.depth⟩

theorem starts_depth (b : Block) :
    ("depth " ++ toString b.depth).toList.head?.any startsTag = true := by
  rw [String.toList_append, List.head?_append]
  rfl

theorem fits_depth (b : Block) : Fits ("[depth " ++ toString b.depth ++ "]") := by
  have hdepth := isPlainWords_int b.depth
  refine fits_of_not_mem ?_ ?_ ?_
  · simp only [String.toList_append, noControl_append]
    exact ⟨⟨by decide, hdepth.1.noControl⟩, by decide⟩
  · simp only [String.toList_append, List.mem_append, not_or]
    exact ⟨⟨by decide, hdepth.1.not_mem.2.2⟩, by decide⟩
  · simp only [String.toList_append, List.mem_append, not_or]
    exact ⟨⟨by decide, hdepth.2⟩, by decide⟩

theorem place_colon (b : Block) (f : Finding) : IsWords (place b f) ∧ Fits (place b f) := by
  have hplace : place b f = "    " ++ toString (b.fileLine f) ++ ":" ++
      (toString (f.column.getD 1) ++
        (if 0 < b.depth then " (nested line " ++ toString f.line ++ ")" else "") ++ " ") := by
    simp only [place, String.append_assoc]
  have hnested : IsPlainWords
      (if 0 < b.depth then " (nested line " ++ toString f.line ++ ")" else "") := by
    split
    · simp only [isPlainWords_append]
      exact ⟨⟨by decide, isPlainWords_int _⟩, by decide⟩
    · decide
  rw [hplace]
  refine IsPlainWords.colon (isPlainWords_append.mpr ⟨by decide, isPlainWords_int _⟩) ?_
  simp only [isPlainWords_append]
  exact ⟨⟨isPlainWords_int _, hnested⟩, by decide⟩

theorem total_colon (blocks : Nat) :
    IsWords ("Total nested Markdown blocks found: " ++ toString blocks) ∧
      Fits ("Total nested Markdown blocks found: " ++ toString blocks) :=
  IsPlainWords.colon (s := "Total nested Markdown blocks found") (t := " " ++ toString blocks)
    (by decide) (isPlainWords_append.mpr ⟨by decide, isPlainWords_nat blocks⟩)

theorem found_colon (blocks : Int) :
    IsWords (": Found " ++ toString blocks ++ " nested Markdown block(s)") ∧
      Fits (": Found " ++ toString blocks ++ " nested Markdown block(s)") := by
  have h := IsPlainWords.colon (s := "")
    (t := " Found " ++ toString blocks ++ " nested Markdown block(s)") (by decide)
    (isPlainWords_append.mpr
      ⟨isPlainWords_append.mpr ⟨by decide, isPlainWords_int blocks⟩, by decide⟩)
  have htext : ": Found " ++ toString blocks ++ " nested Markdown block(s)" =
      "" ++ ":" ++ (" Found " ++ toString blocks ++ " nested Markdown block(s)") := by
    rw [← String.toList_inj]
    simp [String.toList_append]
  rwa [htext]

theorem isPlainWords_failed (findings blocks : Nat) : IsPlainWords
    ("(" ++ toString findings ++ " issue(s) in " ++ toString blocks ++ " block(s))") := by
  simp only [isPlainWords_append]
  exact ⟨⟨⟨⟨by decide, isPlainWords_nat findings⟩, by decide⟩, isPlainWords_nat blocks⟩, by decide⟩

/-- A heading without its trail. -/
theorem isPlainWords_heading {b : Block} (hb : b.Headed) (index : Nat) :
    IsPlainWords (" (" ++ b.info ++ " block #" ++ toString index ++ ")") := by
  simp only [isPlainWords_append]
  exact ⟨⟨⟨⟨by decide, hb.words⟩, by decide⟩, isPlainWords_nat index⟩, by decide⟩

theorem settled_blockText {b : Block} (hb : b.Headed) (showTrail : Bool) (index : Nat) :
    Settled (blockText showTrail b index).toList ↔ (showTrail = true → Settled b.trail.toList) := by
  have hheading := isPlainWords_heading hb index
  cases showTrail with
  | false =>
    have htext : blockText false b index =
        " (" ++ b.info ++ " block #" ++ toString index ++ ")" ++ ":" ++ "" := by
      simp [blockText]
    rw [htext]
    exact iff_of_true (hheading.colon (by decide)).2.settled (by simp)
  | true =>
    have htext : blockText true b index = " (" ++ b.info ++ " block #" ++ toString index ++ ")" ++
        " (" ++ (b.trail ++ "):") := by
      rw [← String.toList_inj]
      simp [blockText, hb.signed.trail_ne_empty, String.toList_append]
    have hbefore := isPlainWords_append.mpr ⟨hheading, show IsPlainWords " (" by decide⟩
    rw [htext, hbefore.settled_append, hb.signed.settled_trail]
    simp

theorem endSlashes_blockText (showTrail : Bool) (b : Block) (index : Nat) :
    endSlashes (blockText showTrail b index).toList = 0 := by
  refine endSlashes_eq_zero fun hlast => ?_
  rw [blockText, String.toList_append, List.getLast?_append] at hlast
  exact absurd (Option.some.inj hlast) (by decide)

/-! ## What the lines show -/

/-- What comes from outside has only characters that are shown, and blocks come from documents. -/
def IsValid : ReportLine → Prop
  | file path => NoControl path.toList
  | heading _ b _ => b.Headed
  | finding _ f => (∀ name ∈ f.ruleNames, NoControl name.toList) ∧ NoControl f.description.toList
  | detail text | scanned text _ => NoControl text.toList
  | _ => True

theorem noControl_intercalate {names : List String}
    (h : ∀ name ∈ names, NoControl name.toList) :
    NoControl (String.intercalate "/" names).toList := by
  induction names with
  | nil => exact fun c hc => absurd hc (by simp)
  | cons name names ih =>
    rw [List.forall_mem_cons] at h
    by_cases hnil : names = []
    · subst hnil
      simpa using h.1
    · rw [String.intercalate_cons_of_ne_nil hnil]
      simp only [String.toList_append, noControl_append]
      exact ⟨⟨h.1, by decide⟩, ih h.2⟩

theorem noControl_blockText {b : Block} (hb : b.Headed) (showTrail : Bool) (index : Nat) :
    NoControl (blockText showTrail b index).toList := by
  have hheading := (isPlainWords_heading hb index).1.noControl
  rw [blockText]
  simp only [String.toList_append, noControl_append] at hheading ⊢
  refine ⟨⟨hheading, ?_⟩, by decide⟩
  split
  · simp only [String.toList_append, noControl_append]
    exact ⟨⟨by decide, hb.noControl⟩, by decide⟩
  · decide

theorem shownIff_headingSpans {b : Block} (hb : b.Headed) (showTrail : Bool) (index : Nat) :
    Line.ShownIff "  " (headingSpans showTrail b index)
      (showTrail = true → Settled b.trail.toList) := by
  have hlead : Fits "  " := IsPlainWords.fits (by decide)
  have hblank : Fits " " := IsPlainWords.fits (by decide)
  have hempty : Fits "" := IsPlainWords.fits (by decide)
  have hyellow : IsStyle "yellow".toList := isStyle_of_mem (by decide)
  have hopening := (isPlainWords_opening b).fits
  have hshown : ShownBeforeTag (blockText showTrail b index).toList ∧ True ↔
      (showTrail = true → Settled b.trail.toList) := by
    rw [and_true, ShownBeforeTag, settled_blockText hb, endSlashes_blockText]
    exact and_iff_left (Nat.zero_le 1)
  have hblock := (Line.ShownIff.last hempty hyellow (noControl_blockText hb showTrail index)
    (by decide) (.fixed hempty)).congr hshown
  rw [headingSpans]
  split
  · exact .cons hlead hyellow hopening (.cons hblank hyellow (fits_depth b) hblock)
  · exact .cons hlead hyellow hopening hblock

/-- The lines can be written as markup, and they are shown as they are exactly if what comes from
outside is. -/
theorem shownIff {l : ReportLine} (h : l.IsValid) :
    Line.ShownIff l.line.lead l.line.spans l.IsShown := by
  have hfits : ∀ s, IsPlainWords s → Fits s := fun s hs => hs.fits
  have hempty := hfits "" (by decide)
  have hblank := hfits " " (by decide)
  cases l with
  | blank => exact .fixed hempty
  | total blocks => exact .fixed (total_colon blocks).2
  | clean =>
    exact .cons hempty (isStyle_of_mem (by decide)) (hfits "✓" (by decide))
      (.fixed (hfits _ (by decide)))
  | passed =>
    exact .cons hempty (isStyle_of_mem (by decide)) (hfits "✓" (by decide))
      (.cons hblank (isStyle_of_mem (by decide)) (hfits _ (by decide)) (.fixed hempty))
  | issues =>
    have hissues : Fits "Nested Markdown Linting Issues:" := IsWords.fits (by decide) (by decide)
    exact .cons hempty (isStyle_of_mem (by decide)) hissues (.fixed hempty)
  | file path =>
    have hfile : Fits "File:" := IsWords.fits (by decide) (by decide)
    exact .cons hempty (isStyle_of_mem (by decide)) hfile (.atEnd (by decide) h)
  | heading showTrail b index => exact shownIff_headingSpans h showTrail index
  | finding b f =>
    refine .last (place_colon b f).2 (isStyle_of_mem (by decide)) (noControl_intercalate h.1) ?_
      (.atEnd (by decide) h.2)
    rw [String.toList_append]
    exact fun hslash => absurd (Option.some.inj hslash) (by decide)
  | detail text =>
    exact (Line.ShownIff.last (hfits "      " (by decide)) (isStyle_of_mem (by decide)) h
      (by decide) (.fixed hempty)).congr (iff_of_eq (and_true _))
  | failed findings blocks =>
    exact .cons hempty (isStyle_of_mem (by decide)) (hfits "✗" (by decide))
      (.cons hblank (isStyle_of_mem (by decide)) (hfits _ (by decide))
        (.cons hblank (isStyle_of_mem (by decide)) (isPlainWords_failed findings blocks).fits
          (.fixed hempty)))
  | scanned path blocks =>
    refine (Line.ShownIff.last hempty (isStyle_of_mem (by decide)) h ?_
      (.fixed (found_colon blocks).2)).congr (iff_of_eq (and_true _))
    rw [String.toList_append, String.toList_append]
    exact fun hslash => absurd (Option.some.inj hslash) (by decide)

/-- The markup of a line shows its text exactly if what comes from outside is shown as it is. -/
theorem showsIf {l : ReportLine} (h : l.IsValid) :
    ShowsIf l.IsShown (visible l.line.markup.toList) l.line.text.toList :=
  (shownIff h).showsIf

end ReportLine

end FenceLint
