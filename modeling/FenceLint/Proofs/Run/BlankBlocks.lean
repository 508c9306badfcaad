import FenceLint.Proofs.Discover.Basic
import FenceLint.Proofs.Rules.Applied
import FenceLint.Proofs.Run.Findings
import FenceLint.Rules.LineStart

/-!
# Runs over blank blocks

A block may be blank: extraction lists it and looks no further into it.  The run hands every block
to its engine, and a scanner of rules does not take blank texts.  So one blank block anywhere
decides how the run ends: with it the run fails, whatever else there is, and without it the run
gives a report, provided that nothing else goes wrong (`run_result_of_blank_blocks`).  The smallest
run that fails is over one file with one empty block (`empty_block_ends_run`).

Only results matter here, so the traces are left out from the start: the result of a run is put
together from the results of its files, and that of a file from the results of its blocks.
-/

namespace FenceLint

/-- The scanner takes every text that is not blank. -/
def Scanner.TakesText (scanner : Scanner) : Prop :=
  ∀ settings content, Text.isBlankText content = false →
    ∃ violations, scanner settings content = .ok violations

/-- What a scanner finds in a text under a configuration; nothing if it fails. -/
def Scanner.findings (scanner : Scanner) (config : Config) (content : String) : List Finding :=
  match scanner (Rules.settings config) content with
  | .ok violations => violations.map Finding.ofViolation
  | .error _ => []

/-- The failure of a scan that is handed a blank text. -/
def Failure.blankScan : Failure := .scan (emptyArgument "path_to_scan")

/-! ## Results -/

section Results

variable (t : Tree) (root : Path) (config : Config) (engine : Engine) (limit : Option Int)

/-- The result of a file: its blocks are linted one by one, and the findings paired with them. -/
theorem result_lintFile (path : Path) :
    (lintFile t root config engine limit path).result =
      (extractFile t path (displayPath t root path) limit).bind fun blocks =>
        (blocks.mapM fun b => (engine b.content (Rules.nestedConfig config)).result).bind
          fun findings => FileReport.ofFindings (displayPath t root path) blocks findings := by
  unfold lintFile
  simp only [Traced.result_bind, Traced.result_mapM]
  congr 1
  funext blocks
  show (blocks.mapM fun b => (engine b.content (Rules.nestedConfig config)).result).bind _ = _
  congr 1
  funext findings
  show (FileReport.ofFindings _ blocks findings).bind _ = _
  cases FileReport.ofFindings (displayPath t root path) blocks findings with
  | error e => rfl
  | ok report => rfl

/-- The result of files: they are linted one by one. -/
theorem result_lintFiles (paths : List Path) :
    (lintFiles t root config engine limit paths).result =
      (paths.mapM fun path => (lintFile t root config engine limit path).result).map
        Report.mk := by
  unfold lintFiles
  rw [Traced.result_bind, Traced.result_mapM]
  rfl

/-- The result of a run whose configuration is loaded and whose files are found. -/
theorem result_run {configPath : Option Path} {patterns : List String} {files : List (List String)}
    (hroot : root.hasNull = false)
    (hconfig : (Config.load t root.resolve configPath).result = .ok config)
    (hfiles : (discover t root.resolve patterns none).result = .ok files) :
    (run t root configPath patterns engine limit).result =
      (lintFiles t root.resolve config engine limit
        (files.map fun parts =>
          { root.resolve with parts := root.resolve.parts ++ parts })).result := by
  unfold run
  simp only [Traced.result_bind, Traced.ofExcept, Tree.resolve, hroot]
  show (Config.load t root.resolve configPath).result.bind _ = _
  rw [hconfig]
  show (discover t root.resolve patterns none).result.bind _ = _
  rw [hfiles]
  rfl

end Results

/-! ## Scanning -/

section Scanning

variable {t : Tree} {root : Path} {config : Config} {limit : Option Int} {scanner : Scanner}

/-- Scanning a text ends well if and only if it is not blank. -/
theorem result_scanning (hconfig : (Rules.configure config).result = .ok ())
    (hscanner : scanner.TakesText) (content : String) :
    (Rules.scanning scanner content config).result =
      if Text.isBlankText content then .error .blankScan
      else .ok (scanner.findings config content) := by
  rw [Rules.scanning_eq_of_ok hconfig]
  by_cases hblank : Text.isBlankText content = true
  · rw [if_pos hblank]
    simp [hblank, Failure.blankScan]
  · obtain ⟨violations, hviolations⟩ :=
      hscanner (Rules.settings config) content (Bool.eq_false_iff.mpr hblank)
    rw [if_neg hblank]
    simp [hblank, hviolations, Scanner.findings]

/-- A file ends well if and only if none of its blocks is blank. -/
theorem result_lintFile_scanning
    (hconfig : (Rules.configure (Rules.nestedConfig config)).result = .ok ())
    (hscanner : scanner.TakesText) {path : Path} {text : String}
    (hread : t.readText path = .ok text) :
    let display := displayPath t root path
    let blocks := extract text { file := display } limit
    (lintFile t root config (Rules.scanning scanner) limit path).result =
      if blocks.any fun b => Text.isBlankText b.content then .error .blankScan
      else .ok (FileReport.ofAnswers display
        (fun b => scanner.findings (Rules.nestedConfig config) b.content) blocks) := by
  intro display blocks
  have hextract : extractFile t path display limit = .ok blocks := by rw [extractFile, hread]; rfl
  have hblocks :
      (blocks.mapM fun b =>
        (Rules.scanning scanner b.content (Rules.nestedConfig config)).result) =
        if blocks.any fun b => Text.isBlankText b.content then .error .blankScan
        else .ok (blocks.map fun b => scanner.findings (Rules.nestedConfig config) b.content) :=
    mapM_eq_ite fun b _ => result_scanning hconfig hscanner b.content
  rw [result_lintFile, hextract]
  show Except.bind (blocks.mapM _) _ = _
  rw [hblocks]
  by_cases hblank : (blocks.any fun b => Text.isBlankText b.content) = true
  · rw [if_pos hblank, if_pos hblank]
    rfl
  · rw [if_neg hblank, if_neg hblank]
    exact FileReport.ofFindings_map display _ blocks

/-- Files end well if and only if none of their blocks is blank. -/
theorem result_lintFiles_scanning
    (hconfig : (Rules.configure (Rules.nestedConfig config)).result = .ok ())
    (hscanner : scanner.TakesText) {paths : List Path} {text : Path → String}
    (hread : ∀ p ∈ paths, t.readText p = .ok (text p)) :
    let blocks := fun p => extract (text p) { file := displayPath t root p } limit
    (lintFiles t root config (Rules.scanning scanner) limit paths).result =
      if paths.any fun p => (blocks p).any fun b => Text.isBlankText b.content then
        .error .blankScan
      else .ok ⟨paths.map fun p => FileReport.ofAnswers (displayPath t root p)
        (fun b => scanner.findings (Rules.nestedConfig config) b.content) (blocks p)⟩ := by
  intro blocks
  rw [result_lintFiles, mapM_eq_ite fun p hp =>
    result_lintFile_scanning hconfig hscanner (hread p hp)]
  by_cases hblank : (paths.any fun p => (blocks p).any fun b => Text.isBlankText b.content) = true
  · rw [if_pos hblank, if_pos hblank]
    rfl
  · rw [if_neg hblank, if_neg hblank]
    rfl

end Scanning

/-- How a run ends when its configuration is loaded and applied, its files are found and read, and
its scanner takes every text that is not blank.  If one of the blocks is blank, the run fails
because of it.  Otherwise it gives a report, in which every block counts. -/
theorem run_result_of_blank_blocks (t : Tree) (root : Path) (configPath : Option Path)
    (patterns : List String) (limit : Option Int) (scanner : Scanner) (config : Config)
    (files : List (List String)) (text : Path → String) (hroot : root.hasNull = false)
    (hload : (Config.load t root.resolve configPath).result = .ok config)
    (hconfig : (Rules.configure (Rules.nestedConfig config)).result = .ok ())
    (hfiles : (discover t root.resolve patterns none).result = .ok files)
    (hscanner : scanner.TakesText) :
    let paths := files.map fun parts =>
      { root.resolve with parts := root.resolve.parts ++ parts : Path }
    let blocks := fun p => extract (text p) { file := displayPath t root.resolve p } limit
    let outcome := run t root configPath patterns (Rules.scanning scanner) limit
    (∀ p ∈ paths, t.readText p = .ok (text p)) →
      ((∃ p ∈ paths, ∃ b ∈ blocks p, Text.strip b.content = "") →
        outcome.result = .error (.scan (Failure.emptyArgument "path_to_scan"))) ∧
      ((∀ p ∈ paths, ∀ b ∈ blocks p, Text.strip b.content ≠ "") →
        ∃ report, outcome.result = .ok report ∧
          List.Forall₂ (fun p r => FileReport.Gathers r (displayPath t root.resolve p) (blocks p)
            fun b => scanner.findings (Rules.nestedConfig config) b.content)
            paths report.files) := by
  intro paths blocks outcome hread
  have hresult : outcome.result = _ :=
    (result_run t root config _ limit hroot hload hfiles).trans
      (result_lintFiles_scanning hconfig hscanner hread)
  constructor
  · rintro ⟨p, hp, b, hb, hblank⟩
    rw [hresult, if_pos]
    · rfl
    · refine List.any_eq_true.mpr ⟨p, hp, List.any_eq_true.mpr ⟨b, hb, ?_⟩⟩
      exact (Text.isBlankText_iff _).mpr hblank
  · intro hall
    have hnone :
        ¬ (paths.any fun p => (blocks p).any fun b => Text.isBlankText b.content) = true := by
      intro hany
      obtain ⟨p, hp, hany⟩ := List.any_eq_true.mp hany
      obtain ⟨b, hb, hblank⟩ := List.any_eq_true.mp hany
      exact hall p hp b hb ((Text.isBlankText_iff _).mp hblank)
    rw [hresult, if_neg hnone]
    refine ⟨_, rfl, ?_⟩
    rw [List.forall₂_map_right_iff]
    apply List.forall₂_same.mpr
    intro p _
    exact FileReport.gathers_ofAnswers _ _ _

/-! ## Runs over one file -/

/-- A scanner of line start rules takes every text. -/
theorem Rules.takesText_lineStartScanner (rules : List LineStartRule) :
    (lineStartScanner rules).TakesText := fun _ _ _ => ⟨_, rfl⟩

/-- A search of a tree that holds nothing but the file `a.md` finds it. -/
theorem discover_one_file (bytes : List UInt8) :
    let t : Tree := ⟨"/docs", [⟨["a.md"], .file bytes⟩]⟩
    (discover t .top [] none).result = .ok [["a.md"]] := by
  intro t
  have hentries : Discover.listing t (Path.resolve .top) = t.entries :=
    Discover.listing_top rfl (by simp [t]) (by simp [t])
  have hown : Filter.ownPatterns t .top = .ok [] := rfl
  have hnested : (t.entries.map (·.parts)).mapM
      (Filter.loadNested t .top (Filter.alwaysPatterns ++ [])) = .ok [none] := rfl
  have hfilter := Filter.load_eq hown hnested
  rw [result_discover_of_load rfl hentries Discover.includesOf_nil hfilter]
  apply congrArg Except.ok
  apply Discover.select_eq_singleton
  rw [List.filter_cons_of_pos]
  · rfl
  · show (true && _ && _ && _) = true
    dsimp only
    decide +kernel

/-- A block in a block, with a finding in each: the run gives a report, in which both count. -/
theorem run_result_of_nested_blocks :
    let text := "````md\n```md\n# A\n```\n````\n"
    let t : Tree := ⟨"/docs", [⟨["a.md"], .file text.toUTF8.toList⟩]⟩
    let scanner := Rules.lineStartScanner [⟨"# ", "md022", none, "", none, none⟩]
    ∃ report, (run t .top none [] (Rules.scanning scanner) none).result = .ok report ∧
      report.files.map (·.blocks) = [2] := by
  intro text t scanner
  have hread : t.readText ⟨.top, ["a.md"]⟩ = .ok text := eq_ok_of_toOption (by decide +kernel)
  obtain ⟨-, hreport⟩ := run_result_of_blank_blocks t .top none [] none scanner [] [["a.md"]]
    (fun _ => text) rfl rfl rfl (discover_one_file _) (Rules.takesText_lineStartScanner _)
    (List.forall_mem_singleton.mpr hread)
  obtain ⟨⟨files⟩, hresult, hfiles⟩ := hreport (by decide +kernel)
  refine ⟨_, hresult, ?_⟩
  cases hfiles with
  | cons hfile hrest =>
    cases hrest with
    | nil =>
      rw [List.map_singleton, hfile.blocks_eq]
      decide +kernel

/-- A block that shows nothing ends the run, though the configuration is loaded and applied, the
file is found and read, and the scanner takes every text that is not blank. -/
theorem empty_block_ends_run :
    let text := "```md\n```\n"
    let t : Tree := ⟨"/docs", [⟨["a.md"], .file text.toUTF8.toList⟩]⟩
    let scanner := Rules.lineStartScanner []
    (Config.load t .top none).result = .ok [] ∧
      (Rules.configure (Rules.nestedConfig [])).result = .ok () ∧
      (discover t .top [] none).result = .ok [["a.md"]] ∧
      t.readText ⟨.top, ["a.md"]⟩ = .ok text ∧ scanner.TakesText ∧
      (run t .top none [] (Rules.scanning scanner) none).result =
        .error (.scan (Failure.emptyArgument "path_to_scan")) := by
  intro text t scanner
  have hfiles := discover_one_file text.toUTF8.toList
  have hread : t.readText ⟨.top, ["a.md"]⟩ = .ok text := eq_ok_of_toOption (by decide +kernel)
  have hscanner := Rules.takesText_lineStartScanner []
  refine ⟨rfl, rfl, hfiles, hread, hscanner, ?_⟩
  have hreads : ∀ p ∈ [(⟨.top, ["a.md"]⟩ : Path)], t.readText p = .ok text :=
    List.forall_mem_singleton.mpr hread
  rw [result_run t .top [] _ none rfl rfl hfiles]
  have hlint : (lintFiles t .top [] (Rules.scanning scanner) none [⟨.top, ["a.md"]⟩]).result = _ :=
    result_lintFiles_scanning rfl hscanner hreads
  exact hlint.trans (if_pos (by decide +kernel))

end FenceLint
