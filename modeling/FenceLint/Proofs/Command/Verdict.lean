import FenceLint.Command
import FenceLint.Proofs.Report.Document
import FenceLint.Proofs.Report.Json
import FenceLint.Proofs.Run.Passing

/-!
# The verdict of the command

The answer to the system, the document that is printed and the totals in it are all made from the
result of one run, each in its own way.  They agree (`check_verdict`): the answer is 0 exactly if
the run ends well, the engine had nothing to say and the report could be printed, and a document on
the standard output is whole and tells the same.

A document cannot be printed if a number in it has too many digits.  Then there is no document, and
the answer is 1 (`long_line_prints_nothing`).  That is the only reason here, since names and texts
are made of characters and the output takes all characters.  A system may let half of a surrogate
pair stand in a name or a finding; an output in UTF-8 has to refuse that, and nothing is said of it.
-/

namespace FenceLint.Command

/-- The run that a check makes. -/
def runOf (t : Tree) (engine : Engine) (o : CheckOptions) : Traced Report :=
  FenceLint.run t (Path.parse o.root) (o.config.map Path.parse) o.patterns engine o.limit

/-- The run of a check asks the engine about a text under a configuration. -/
def Asks (t : Tree) (o : CheckOptions) (content : String) (nested : Config) : Prop :=
  FenceLint.Asks t (Path.parse o.root) (o.config.map Path.parse) o.patterns o.limit content nested

section

variable {t : Tree} {engine : Engine} {o : CheckOptions}

/-- A directory is linted. -/
theorem execute_of_directory {args : List String} (hargs : parse? args = some (.check o))
    (hroot : t.node? (Path.parse o.root) = .ok (some .directory)) :
    execute t engine args = lint t engine o := by
  rw [execute, hargs]
  show check t engine o = _
  rw [check, hroot]

theorem stdout_lint : (lint t engine o).stdout = (output o (runOf t engine o)).text := rfl

/-- A run that fails is answered with 1. -/
theorem exitCode_of_error {e : Failure} (h : (runOf t engine o).result = .error e) :
    (lint t engine o).exitCode = 1 := by
  show exitCode (reported (runOf t engine o) _) = 1
  rw [reported, h]
  rfl

/-- A run with a report is answered by whether it has passed, if the report could be printed. -/
theorem exitCode_of_ok {report : Report} (h : (runOf t engine o).result = .ok report) :
    (lint t engine o).exitCode =
      if (output o (runOf t engine o)).fault = none ∧ report.passed = true then 0 else 1 := by
  show exitCode (reported (runOf t engine o) (output o (runOf t engine o))) = _
  rw [reported, h]
  cases hfault : (output o (runOf t engine o)).fault with
  | none => simp [exitCode]
  | some fault => simp [exitCode]

/-- The answer is 0 exactly if the run ends well, the report could be printed, and every answer of
the engine was empty. -/
theorem exitCode_eq_zero_iff :
    (lint t engine o).exitCode = 0 ↔
      (output o (runOf t engine o)).fault = none ∧
        (∃ report, (runOf t engine o).result = .ok report) ∧
        ∀ content nested, Asks t o content nested → (engine content nested).result = .ok [] := by
  cases hrun : (runOf t engine o).result with
  | error e =>
    rw [exitCode_of_error hrun]
    simp
  | ok report =>
    have hpassed : report.passed = true ↔ ∀ content nested, Asks t o content nested →
        (engine content nested).result = .ok [] := passed_iff_of_result_run hrun
    rw [exitCode_of_ok hrun, ← hpassed]
    simp

/-- The files of a run that ended well are numbered. -/
theorem numbered_of_result_run {report : Report} (h : (runOf t engine o).result = .ok report) :
    ∀ f ∈ report.files, f.Numbered := by
  obtain ⟨config, files, -, -, hlint⟩ := exists_of_result_run h
  obtain ⟨-, rfl⟩ := eq_of_result_lintFiles hlint
  rw [List.forall_mem_map]
  exact fun p _ => (FileReport.gathers_ofAnswers _ _ _).numbered

/-- Without a report there is no document. -/
theorem output_of_error (hformat : o.format = .json) {run : Traced Report} {e : Failure}
    (h : run.result = .error e) : output o run = {} := by
  unfold output
  rw [hformat, h]

/-- With a report, the output is its document. -/
theorem output_of_ok (hformat : o.format = .json) {run : Traced Report} {report : Report}
    (h : run.result = .ok report) : output o run = report.json := by
  unfold output
  rw [hformat, h]

/-- What is printed for a report is its document, whole, or nothing at all. -/
theorem document_of_ok (hformat : o.format = .json) {report : Report}
    (h : (runOf t engine o).result = .ok report) :
    ((∀ n ∈ report.numbers, Text.isShort n = true) ∧
      (output o (runOf t engine o)).fault = none ∧ ∃ document,
        Json.read (lint t engine o).stdout = .ok (.object document) ∧
          Document.Agrees document (lint t engine o).exitCode) ∨
    ((∃ n ∈ report.numbers, Text.isShort n = false) ∧
      (lint t engine o).stdout = "" ∧ (lint t engine o).exitCode = 1) := by
  rw [stdout_lint, exitCode_of_ok h, output_of_ok hformat h]
  rcases report.json_cases with ⟨hshort, written, -, hjson⟩ | ⟨hlong, hjson⟩
  · refine .inl ⟨hshort, ?_, report.toFields, ?_, ?_⟩
    · rw [hjson]
    · rw [hjson]
      exact (Report.read_of_json hjson).1
    · have hagrees := Report.agrees_toFields (numbered_of_result_run h)
      simpa [hjson] using hagrees
  · refine .inr ⟨hlong, ?_, ?_⟩
    · rw [hjson]
    · rw [hjson, if_neg (by simp)]

end

/-- The verdict of a check on a directory.  The answer is 0 or 1; it is 0 exactly if the report
could be printed, the run ended well and the engine had nothing to say about any block.  With a
document as output, nothing is printed if the run fails.  Otherwise one document is printed, which
agrees with itself and with the answer, unless a number in it has too many digits. -/
theorem check_verdict (t : Tree) (engine : Engine) (args : List String) (o : CheckOptions)
    (hargs : parse? args = some (.check o))
    (hroot : t.node? (Path.parse o.root) = .ok (some .directory)) :
    let outcome := execute t engine args
    let run := runOf t engine o
    (outcome.exitCode = 0 ∨ outcome.exitCode = 1) ∧
    (outcome.exitCode = 0 ↔ (output o run).fault = none ∧ (∃ report, run.result = .ok report) ∧
      ∀ content nested, Asks t o content nested → (engine content nested).result = .ok []) ∧
    (o.format = .json →
      (∀ e, run.result = .error e → outcome.stdout = "") ∧
      ∀ report, run.result = .ok report →
        ((∀ n ∈ report.numbers, Text.isShort n = true) → (output o run).fault = none ∧ ∃ document,
          Json.read outcome.stdout = .ok (.object document) ∧
            Document.Agrees document outcome.exitCode) ∧
        ((∃ n ∈ report.numbers, Text.isShort n = false) →
          outcome.stdout = "" ∧ outcome.exitCode = 1)) := by
  intro outcome run
  have houtcome : outcome = lint t engine o := execute_of_directory hargs hroot
  rw [houtcome]
  refine ⟨?_, exitCode_eq_zero_iff, fun hformat => ⟨fun e hrun => ?_, fun report hrun => ?_⟩⟩
  · cases hrun : run.result with
    | error e => exact .inr (exitCode_of_error hrun)
    | ok report =>
      rw [exitCode_of_ok hrun]
      split
      · exact .inl rfl
      · exact .inr rfl
  · rw [stdout_lint, output_of_error hformat hrun]
  · -- A number cannot be short and long, so each half of the alternative answers one question.
    rcases document_of_ok hformat hrun with ⟨hshort, hdocument⟩ | ⟨hlong, hnothing⟩
    · exact ⟨fun _ => hdocument, fun hlong => (Text.false_of_short_of_long hshort hlong).elim⟩
    · exact ⟨fun hshort => (Text.false_of_short_of_long hshort hlong).elim, fun _ => hnothing⟩

/-! ## Checks of one file -/

/-- The tree that holds nothing but the file `a.md`. -/
def oneFile (text : String) : Tree := ⟨"/docs", [⟨["a.md"], .file text.toUTF8.toList⟩]⟩

/-- A check of one file, with a scanner that takes every block. -/
theorem result_runOf_oneFile {text : String} {scanner : Scanner} (hscanner : scanner.TakesText)
    (hread : (oneFile text).readText ⟨.top, ["a.md"]⟩ = .ok text)
    (hblocks : ∀ b ∈ extract text { file := "a.md" } none, Text.isBlankText b.content = false) :
    (runOf (oneFile text) (Rules.scanning scanner) { format := .json }).result =
      .ok ⟨[.ofAnswers "a.md" (fun b => scanner.findings (Rules.nestedConfig []) b.content)
        (extract text { file := "a.md" } none)]⟩ := by
  have hpath : Path.parse "." = ⟨.relative, []⟩ := by decide +kernel
  have hdisplay : displayPath (oneFile text) .top ⟨.top, ["a.md"]⟩ = "a.md" := rfl
  have hreads : ∀ p ∈ [(⟨.top, ["a.md"]⟩ : Path)], (oneFile text).readText p = .ok text :=
    List.forall_mem_singleton.2 hread
  have hlint : (lintFiles (oneFile text) .top [] (Rules.scanning scanner) none
      [⟨.top, ["a.md"]⟩]).result = _ := result_lintFiles_scanning rfl hscanner hreads
  have hnone : ¬ ([(⟨.top, ["a.md"]⟩ : Path)].any fun p =>
      (extract text { file := displayPath (oneFile text) .top p } none).any fun b =>
        Text.isBlankText b.content) = true := by
    rw [List.any_cons, List.any_nil, Bool.or_false, hdisplay, Bool.not_eq_true, List.any_eq_false]
    intro b hb
    rw [hblocks b hb]
    exact Bool.false_ne_true
  rw [if_neg hnone] at hlint
  show (run (oneFile text) (Path.parse ".") none [] _ none).result = _
  rw [hpath, result_run _ _ [] _ none rfl rfl (discover_one_file _)]
  exact hlint

theorem parse?_json :
    parse? ["check", "--format", "json"] = some (.check { format := .json }) := by
  decide +kernel

/-- A finding in a block inside a block: the answer is 1, and the document says so. -/
theorem check_verdict_nested_finding :
    let t := oneFile "````md\n```md\n# A\n```\n````\n"
    let scanner := Rules.lineStartScanner [⟨"# ", "md022", none, "", none, none⟩]
    let outcome := execute t (Rules.scanning scanner) ["check", "--format", "json"]
    outcome.exitCode = 1 ∧ ∃ document, Json.read outcome.stdout = .ok (.object document) ∧
      Document.Agrees document 1 := by
  intro t scanner outcome
  have hread : t.readText ⟨.top, ["a.md"]⟩ = .ok "````md\n```md\n# A\n```\n````\n" :=
    eq_ok_of_toOption (by decide +kernel)
  have hscanner : scanner.TakesText := Rules.takesText_lineStartScanner _
  have hresult := result_runOf_oneFile hscanner hread (by decide +kernel)
  have hcode : outcome.exitCode = 1 := by
    show (execute t _ _).exitCode = 1
    rw [execute_of_directory parse?_json rfl, exitCode_of_ok hresult]
    exact if_neg fun h => absurd h.2 (by decide +kernel)
  obtain ⟨-, -, hjson⟩ := check_verdict t (Rules.scanning scanner) _ _ parse?_json rfl
  obtain ⟨-, hdocument⟩ := ((hjson rfl).2 _ hresult).1 (by decide +kernel)
  exact ⟨hcode, hcode ▸ hdocument⟩

/-- A scanner that finds a problem on the given line of every text. -/
def lineScanner (line : Int) : Scanner := fun _ _ => .ok [⟨line, none, "md001", none, "", none⟩]

/-- A check of a file whose block is on its first line reports the finding one line further down. -/
theorem exists_report_lineScanner (line : Int) :
    ∃ report, (runOf (oneFile "```md\nx\n```\n") (Rules.scanning (lineScanner line))
      { format := .json }).result = .ok report ∧ 1 + line ∈ report.numbers := by
  let b : Block := ⟨"x\n", 1, 0, "line 1", "md", "a.md"⟩
  let answer : Block → List Finding := fun b =>
    (lineScanner line).findings (Rules.nestedConfig []) b.content
  have hread : (oneFile "```md\nx\n```\n").readText ⟨.top, ["a.md"]⟩ = .ok "```md\nx\n```\n" :=
    eq_ok_of_toOption (by decide +kernel)
  have hextract : extract "```md\nx\n```\n" { file := "a.md" } none = [b] := by decide +kernel
  have hscanner : (lineScanner line).TakesText := fun _ _ _ => ⟨_, rfl⟩
  have hresult := result_runOf_oneFile hscanner hread (by decide +kernel)
  rw [hextract] at hresult
  refine ⟨_, hresult, ?_⟩
  have hfound : Finding.ofViolation ⟨line, none, "md001", none, "", none⟩ ∈ answer b :=
    List.mem_cons_self
  have hentry : ⟨"a.md", b, 0 + 0 + 1, answer b⟩ ∈ FileReport.entriesFrom "a.md" answer 0 [b] :=
    (FileReport.mem_entriesFrom "a.md" answer 0 [b] _).2 ⟨0, b, rfl, List.ne_nil_of_mem hfound, rfl⟩
  have he : ⟨"a.md", b, 0 + 0 + 1, answer b⟩ ∈
      Report.entries ⟨[.ofAnswers "a.md" answer [b]]⟩ :=
    Report.mem_entries_of_mem_files List.mem_cons_self hentry
  exact Report.fileLine_mem_numbers he hfound

/-- The line of a finding is a sum, which may have too many digits though its parts do not.  The run
ends well, but its document is not printed. -/
theorem long_line_prints_nothing :
    let t := oneFile "```md\nx\n```\n"
    let engine := Rules.scanning (lineScanner (Text.leastLong - 1))
    let outcome := execute t engine ["check", "--format", "json"]
    (∃ report, (runOf t engine { format := .json }).result = .ok report) ∧
      outcome.stdout = "" ∧ ¬ ∃ v, Json.read outcome.stdout = .ok v := by
  intro t engine outcome
  obtain ⟨report, hresult, hnumber⟩ := exists_report_lineScanner (Text.leastLong - 1)
  rw [Int.add_comm, Int.sub_add_cancel] at hnumber
  have houtcome : outcome = lint t engine { format := .json } :=
    execute_of_directory parse?_json rfl
  have hstdout : outcome.stdout = "" := by
    rw [houtcome]
    rcases document_of_ok rfl hresult with ⟨hshort, -⟩ | ⟨-, hnothing, -⟩
    · exact (Text.false_of_short_of_long hshort ⟨_, hnumber, Text.isShort_leastLong⟩).elim
    · exact hnothing
  refine ⟨⟨report, hresult⟩, hstdout, ?_⟩
  rw [hstdout]
  rintro ⟨v, hv⟩
  cases hv

end FenceLint.Command
