import FenceLint.Proofs.Run.BlankBlocks

/-!
# Runs that end well

A run may end badly in many places: at its configuration, at an ignore file, at a file that cannot
be read, at any of its engine's answers.  A run that ends well has been through all of them, so its
report is put together from the answers of the engine, whatever the engine is
(`exists_of_result_run`).  It has passed if and only if the engine had nothing to say about any
block that it was asked about (`passed_iff_of_result_run`).
-/

namespace FenceLint

/-- What an engine finds in a text under a configuration; nothing if it fails. -/
def Engine.findings (engine : Engine) (config : Config) (content : String) : List Finding :=
  match (engine content config).result with
  | .ok found => found
  | .error _ => []

/-- The blocks of a file of a run; none if it cannot be read. -/
def blocksAt (t : Tree) (root : Path) (limit : Option Int) (path : Path) : List Block :=
  match extractFile t path (displayPath t root path) limit with
  | .ok blocks => blocks
  | .error _ => []

/-- What is reported of a file of a run, if the engine does not fail. -/
def answersAt (t : Tree) (root : Path) (config : Config) (engine : Engine) (limit : Option Int)
    (path : Path) : FileReport :=
  .ofAnswers (displayPath t root path)
    (fun b => engine.findings (Rules.nestedConfig config) b.content) (blocksAt t root limit path)

/-- The path of a file that was found below the root. -/
def pathBelow (root : Path) (parts : List String) : Path :=
  { root with parts := root.parts ++ parts }

/-! ## Inversion -/

section Inversion

variable {t : Tree} {root : Path} {config : Config} {engine : Engine} {limit : Option Int}

/-- What has been done when a file ends well: it was read, and the engine answered on all its
blocks. -/
theorem eq_of_result_lintFile {path : Path} {report : FileReport}
    (h : (lintFile t root config engine limit path).result = .ok report) :
    extractFile t path (displayPath t root path) limit = .ok (blocksAt t root limit path) ∧
      (∀ b ∈ blocksAt t root limit path,
        (engine b.content (Rules.nestedConfig config)).result =
          .ok (engine.findings (Rules.nestedConfig config) b.content)) ∧
      report = answersAt t root config engine limit path := by
  rw [result_lintFile] at h
  obtain ⟨blocks, hblocks, h⟩ := exists_of_bind_eq_ok h
  obtain ⟨found, hfound, h⟩ := exists_of_bind_eq_ok h
  have hat : blocksAt t root limit path = blocks := by rw [blocksAt, hblocks]
  have hanswer : ∀ (b : Block) (found : List Finding),
      (engine b.content (Rules.nestedConfig config)).result = .ok found →
      engine.findings (Rules.nestedConfig config) b.content = found := by
    intro b found hb
    rw [Engine.findings, hb]
  obtain ⟨rfl, hall⟩ := eq_map_of_mapM_eq_ok hanswer hfound
  rw [FileReport.ofFindings_map] at h
  rw [answersAt, hat]
  exact ⟨hblocks, hall, (Except.ok.inj h).symm⟩

/-- What has been done when files end well. -/
theorem eq_of_result_lintFiles {paths : List Path} {report : Report}
    (h : (lintFiles t root config engine limit paths).result = .ok report) :
    (∀ p ∈ paths, (lintFile t root config engine limit p).result =
        .ok (answersAt t root config engine limit p)) ∧
      report = ⟨paths.map (answersAt t root config engine limit)⟩ := by
  rw [result_lintFiles] at h
  cases hfiles : paths.mapM fun p => (lintFile t root config engine limit p).result with
  | error e =>
    rw [hfiles] at h
    contradiction
  | ok reports =>
    rw [hfiles] at h
    obtain ⟨rfl, hall⟩ := eq_map_of_mapM_eq_ok
      (fun _ _ hp => (eq_of_result_lintFile hp).2.2.symm) hfiles
    exact ⟨hall, (Except.ok.inj h).symm⟩

variable {configPath : Option Path} {patterns : List String} {report : Report}

/-- What has been done when a run ends well: the configuration was loaded, the files were found, and
all of them ended well. -/
theorem exists_of_result_run
    (h : (run t root configPath patterns engine limit).result = .ok report) :
    ∃ config files, (Config.load t root.resolve configPath).result = .ok config ∧
      (discover t root.resolve patterns none).result = .ok files ∧
      (lintFiles t root.resolve config engine limit (files.map (pathBelow root.resolve))).result =
        .ok report := by
  have hrun := h
  unfold run at h
  rw [Traced.result_bind] at h
  obtain ⟨resolved, hresolve, h⟩ := exists_of_bind_eq_ok h
  have hnull : root.hasNull = false := by
    by_contra hnull
    rw [Bool.not_eq_false] at hnull
    simp [Traced.ofExcept, Tree.resolve, hnull] at hresolve
  obtain rfl : root.resolve = resolved := by
    simpa [Traced.ofExcept, Tree.resolve, hnull] using hresolve
  rw [Traced.result_bind] at h
  obtain ⟨config, hconfig, h⟩ := exists_of_bind_eq_ok h
  rw [Traced.result_bind] at h
  obtain ⟨files, hfiles, -⟩ := exists_of_bind_eq_ok h
  rw [result_run t root config engine limit hnull hconfig hfiles] at hrun
  exact ⟨config, files, hconfig, hfiles, hrun⟩

end Inversion

/-! ## Passing -/

/-- A run asks its engine about a text under a configuration: the text is the content of a block of
a file that was found. -/
def Asks (t : Tree) (root : Path) (configPath : Option Path) (patterns : List String)
    (limit : Option Int) (content : String) (nested : Config) : Prop :=
  ∃ config files parts blocks b, (Config.load t root.resolve configPath).result = .ok config ∧
    (discover t root.resolve patterns none).result = .ok files ∧ parts ∈ files ∧
    extractFile t (pathBelow root.resolve parts)
      (displayPath t root.resolve (pathBelow root.resolve parts)) limit = .ok blocks ∧
    b ∈ blocks ∧ content = b.content ∧ nested = Rules.nestedConfig config

/-- A report of answers has passed if and only if all of them are empty. -/
theorem Report.passed_ofAnswers_iff {α : Type} (file : α → String)
    (answer : Block → List Finding) (blocks : α → List Block) (l : List α) :
    Report.passed ⟨l.map fun a => .ofAnswers (file a) answer (blocks a)⟩ = true ↔
      ∀ a ∈ l, ∀ b ∈ blocks a, answer b = [] := by
  rw [Report.passed, beq_iff_eq, Report.totalFindings_ofAnswers,
    List.sum_eq_zero_iff_forall_eq_nat, List.forall_mem_map, List.forall_mem_flatMap]
  simp only [List.length_eq_zero_iff]

/-- A run that ends well has passed if and only if every answer of the engine was empty. -/
theorem passed_iff_of_result_run {t : Tree} {root : Path} {configPath : Option Path}
    {patterns : List String} {engine : Engine} {limit : Option Int} {report : Report}
    (h : (run t root configPath patterns engine limit).result = .ok report) :
    report.passed = true ↔ ∀ content nested,
      Asks t root configPath patterns limit content nested →
        (engine content nested).result = .ok [] := by
  obtain ⟨config, files, hconfig, hfiles, hlint⟩ := exists_of_result_run h
  obtain ⟨hall, rfl⟩ := eq_of_result_lintFiles hlint
  have hpassed := Report.passed_ofAnswers_iff (displayPath t root.resolve)
    (fun b => engine.findings (Rules.nestedConfig config) b.content)
    (blocksAt t root.resolve limit) (files.map (pathBelow root.resolve))
  refine hpassed.trans ⟨fun hnone content nested hasks => ?_, fun hnone p hp b hb => ?_⟩
  · obtain ⟨config', files', parts, blocks, b, hconfig', hfiles', hparts, hblocks, hb, rfl, rfl⟩ :=
      hasks
    obtain rfl : config = config' := Except.ok.inj (hconfig.symm.trans hconfig')
    obtain rfl : files = files' := Except.ok.inj (hfiles.symm.trans hfiles')
    have hp := List.mem_map_of_mem (f := pathBelow root.resolve) hparts
    obtain ⟨hextract, hanswers, -⟩ := eq_of_result_lintFile (hall _ hp)
    obtain rfl : blocks = blocksAt t root.resolve limit (pathBelow root.resolve parts) :=
      Except.ok.inj (hblocks.symm.trans hextract)
    rw [hanswers b hb, hnone _ hp b hb]
  · obtain ⟨parts, hparts, rfl⟩ := List.mem_map.1 hp
    obtain ⟨hextract, hanswers, -⟩ := eq_of_result_lintFile (hall _ hp)
    have hempty := hnone b.content (Rules.nestedConfig config)
      ⟨config, files, parts, _, b, hconfig, hfiles, hparts, hextract, hb, rfl, rfl⟩
    rw [hanswers b hb] at hempty
    exact Except.ok.inj hempty

end FenceLint
