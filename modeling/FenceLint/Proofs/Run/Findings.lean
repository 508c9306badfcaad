import FenceLint.Proofs.Trace
import FenceLint.Run
import Mathlib.Algebra.GroupWithZero.Nat
import Mathlib.Data.List.Forall2

/-!
# What a run reports

A run asks its engine about every block of every file, and the report has to give the answers back:
none is lost, none is made up, and each stands under the number of its block.

`FileReport.Gathers` states this for one file without saying how the report is made.  Extraction,
linting, pairing, numbering and the skipping of clean blocks are separate steps of `lintFile`; a
file report that is put together from the answers directly (`FileReport.ofAnswers`) shows that they
stay aligned.  The trace of a run tells which questions the engine was asked.
-/

namespace FenceLint

/-! ## The report of one file -/

/-- The report holds the answers on the blocks of a file: an entry for each answer that is not
empty, under the number of its block and in the order of the blocks, with the findings located by
the line of the block. -/
structure FileReport.Gathers (r : FileReport) (file : String) (blocks : List Block)
    (answer : Block → List Finding) : Prop where
  file_eq : r.file = file
  blocks_eq : r.blocks = blocks.length
  mem_entries : ∀ e, e ∈ r.entries ↔
    ∃ i b, blocks[i]? = some b ∧ answer b ≠ [] ∧ e = ⟨file, b, i + 1, answer b⟩
  increasing : r.entries.Pairwise fun e e' => e.index < e'.index
  located : ∀ e ∈ r.entries, e.located = e.findings.map fun f => (f, e.block.line + f.line)

namespace FileReport

variable (file : String) (answer : Block → List Finding)

/-- The entries of blocks that are numbered from `k + 1` on. -/
def entriesFrom (k : Nat) (blocks : List Block) : List BlockReport :=
  (blocks.zipIdx k).filterMap fun (b, i) =>
    if (answer b).isEmpty then none else some ⟨file, b, i + 1, answer b⟩

/-- The report of a file from the answers on its blocks. -/
def ofAnswers (blocks : List Block) : FileReport :=
  ⟨file, blocks.length, entriesFrom file answer 0 blocks⟩

/-- Pairing the blocks with their answers succeeds and numbers the blocks from 1. -/
theorem ofFindings_map (blocks : List Block) :
    ofFindings file blocks (blocks.map answer) = .ok (ofAnswers file answer blocks) := by
  rw [ofFindings, if_neg (by simp), ← List.map_prod_left_eq_zip, List.zipIdx_map,
    List.filterMap_map]
  rfl

/-- The first block has an entry if there is something to say about it. -/
theorem entriesFrom_cons (k : Nat) (b : Block) (blocks : List Block) :
    entriesFrom file answer k (b :: blocks) =
      if answer b = [] then entriesFrom file answer (k + 1) blocks
      else ⟨file, b, k + 1, answer b⟩ :: entriesFrom file answer (k + 1) blocks := by
  rw [entriesFrom, List.zipIdx_cons, List.filterMap_cons]
  by_cases h : answer b = []
  · simp [h, entriesFrom]
  · simp [h, entriesFrom]

/-- The entries are those of the blocks with findings. -/
theorem mem_entriesFrom (k : Nat) (blocks : List Block) (e : BlockReport) :
    e ∈ entriesFrom file answer k blocks ↔
      ∃ i b, blocks[i]? = some b ∧ answer b ≠ [] ∧ e = ⟨file, b, k + i + 1, answer b⟩ := by
  rw [entriesFrom, List.mem_filterMap]
  constructor
  · rintro ⟨⟨b, j⟩, hmem, he⟩
    rw [List.mk_mem_zipIdx_iff_le_and_getElem?_sub] at hmem
    obtain ⟨hj, hb⟩ := hmem
    dsimp only at he
    split at he
    · simp at he
    · next hne =>
      refine ⟨j - k, b, hb, by simpa using hne, ?_⟩
      rw [← Option.some.inj he, Nat.add_sub_cancel' hj]
  · rintro ⟨i, b, hb, hne, rfl⟩
    refine ⟨(b, k + i), ?_, by simp [hne]⟩
    rw [List.mk_mem_zipIdx_iff_le_and_getElem?_sub]
    exact ⟨Nat.le_add_right k i, by rwa [Nat.add_sub_cancel_left]⟩

/-- The entries are in the order of the blocks. -/
theorem pairwise_entriesFrom (k : Nat) (blocks : List Block) :
    (entriesFrom file answer k blocks).Pairwise fun e e' => e.index < e'.index := by
  induction blocks generalizing k with
  | nil => exact .nil
  | cons b blocks ih =>
    rw [entriesFrom_cons]
    split
    · exact ih (k + 1)
    · refine .cons ?_ (ih (k + 1))
      intro e he
      obtain ⟨i, c, -, -, rfl⟩ := (mem_entriesFrom file answer (k + 1) blocks e).mp he
      show k + 1 < k + 1 + i + 1
      omega

/-- All findings are in the entries. -/
theorem sum_entriesFrom (k : Nat) (blocks : List Block) :
    ((entriesFrom file answer k blocks).map (·.findings.length)).sum =
      (blocks.map fun b => (answer b).length).sum := by
  induction blocks generalizing k with
  | nil => rfl
  | cons b blocks ih =>
    rw [entriesFrom_cons, List.map_cons, List.sum_cons]
    split
    · next h => rw [ih, h, List.length_nil, Nat.zero_add]
    · rw [List.map_cons, List.sum_cons, ih]

/-- The report of a file gathers the answers on its blocks. -/
theorem gathers_ofAnswers (blocks : List Block) :
    (ofAnswers file answer blocks).Gathers file blocks answer := by
  refine ⟨rfl, rfl, fun e => ?_, pairwise_entriesFrom file answer 0 blocks, fun _ _ => rfl⟩
  have hmem := mem_entriesFrom file answer 0 blocks e
  simp only [Nat.zero_add] at hmem
  exact hmem

end FileReport

/-! ## Totals -/

namespace Report

variable {α : Type} (file : α → String) (answer : Block → List Finding) (blocks : α → List Block)

/-- The findings of a report are all findings of all answers. -/
theorem totalFindings_ofAnswers (l : List α) :
    totalFindings ⟨l.map fun a => .ofAnswers (file a) answer (blocks a)⟩ =
      ((l.flatMap blocks).map fun b => (answer b).length).sum := by
  rw [totalFindings, entries, List.flatMap_map]
  show ((l.flatMap fun a => FileReport.entriesFrom (file a) answer 0 (blocks a)).map
    (·.findings.length)).sum = _
  induction l with
  | nil => rfl
  | cons a l ih =>
    rw [List.flatMap_cons, List.flatMap_cons, List.map_append, List.map_append, List.sum_append,
      List.sum_append, ih, FileReport.sum_entriesFrom]

/-- The blocks of a report are all blocks of all files. -/
theorem totalBlocks_ofAnswers (l : List α) :
    totalBlocks ⟨l.map fun a => .ofAnswers (file a) answer (blocks a)⟩ =
      (l.flatMap blocks).length := by
  rw [totalBlocks, List.map_map]
  show (l.map fun a => (blocks a).length).sum = _
  rw [List.length_flatMap]

end Report

/-! ## Runs with an engine that answers -/

/-- The engine that answers by a function, and leaves in the trace what it was asked. -/
def Engine.answering (answer : String → Config → List Finding) : Engine := fun content config => do
  Traced.emit (.lint content config)
  return answer content config

/-- What an engine was asked, if the event tells. -/
def Event.question? : Event → Option (String × Config)
  | .lint content config => some (content, config)
  | _ => none

section Lint

variable (t : Tree) (root : Path) (config : Config) (limit : Option Int)

/-- Linting a file that can be read with an engine that does not fail: the file is scanned, the
engine is asked about each block, and a line is logged. -/
theorem lintFile_eq {engine : Engine} {answer : String → Config → List Finding}
    (hengine : ∀ content config, (engine content config).result = .ok (answer content config))
    {path : Path} {text : String} (hread : t.readText path = .ok text) :
    let display := displayPath t root path
    let nested := Rules.nestedConfig config
    let blocks := extract text { file := display } limit
    let report := FileReport.ofAnswers display (fun b => answer b.content nested) blocks
    lintFile t root config engine limit path =
      ⟨.scanned display blocks.length ::
          (blocks.flatMap fun b => (engine b.content nested).trace) ++
          [.log .debug (display ++ ": " ++ toString blocks.length ++ " block(s), " ++
            toString report.entries.length ++ " with findings")],
        .ok report⟩ := by
  intro display nested blocks report
  have hextract : extractFile t path display limit = .ok blocks := by rw [extractFile, hread]; rfl
  have hlint : (blocks.mapM fun b => engine.lintNested config b.content) =
      ⟨blocks.flatMap fun b => (engine b.content nested).trace,
        .ok (blocks.map fun b => answer b.content nested)⟩ :=
    Traced.mapM_eq fun b _ => hengine b.content nested
  have hreport : FileReport.ofFindings display blocks
      (blocks.map fun b => answer b.content nested) = .ok report :=
    FileReport.ofFindings_map display _ blocks
  rw [lintFile, hextract, Traced.bind_of_ok rfl, Traced.bind_of_ok rfl, hlint,
    Traced.bind_of_ok rfl, hreport, Traced.bind_of_ok rfl, Traced.bind_of_ok rfl]
  simp [Traced.ofExcept, Traced.emit, Traced.log, pure, Traced.pure]
  rfl

/-- Linting files that can be read with an engine that does not fail. -/
theorem lintFiles_eq {engine : Engine} {answer : String → Config → List Finding}
    (hengine : ∀ content config, (engine content config).result = .ok (answer content config))
    {paths : List Path} {text : Path → String}
    (hread : ∀ p ∈ paths, t.readText p = .ok (text p)) :
    lintFiles t root config engine limit paths =
      ⟨paths.flatMap fun p => (lintFile t root config engine limit p).trace,
        .ok ⟨paths.map fun p => FileReport.ofAnswers (displayPath t root p)
          (fun b => answer b.content (Rules.nestedConfig config))
          (extract (text p) { file := displayPath t root p } limit)⟩⟩ := by
  have hfiles := Traced.mapM_eq fun p hp =>
    congrArg Traced.result (lintFile_eq t root config limit hengine (hread p hp))
  rw [lintFiles, hfiles, Traced.bind_of_ok rfl]
  simp [pure, Traced.pure]

/-- The questions in the trace of a file are about its blocks, once each and in order. -/
theorem questions_lintFile (answer : String → Config → List Finding) {path : Path} {text : String}
    (hread : t.readText path = .ok text) :
    (lintFile t root config (.answering answer) limit path).trace.filterMap Event.question? =
      (extract text { file := displayPath t root path } limit).map fun b =>
        (b.content, Rules.nestedConfig config) := by
  rw [lintFile_eq t root config limit (fun _ _ => rfl) hread]
  generalize extract text { file := displayPath t root path } limit = blocks
  have hasked : (blocks.flatMap fun b =>
        (Engine.answering answer b.content (Rules.nestedConfig config)).trace).filterMap
          Event.question? = blocks.map fun b => (b.content, Rules.nestedConfig config) := by
    induction blocks with
    | nil => rfl
    | cons b blocks ih =>
      rw [List.flatMap_cons, List.filterMap_append, ih]
      rfl
  rw [List.cons_append, List.filterMap_cons_none rfl, List.filterMap_append, hasked,
    List.filterMap_cons_none rfl, List.filterMap_nil, List.append_nil]

/-- A run over files that can be read, with an engine that answers, loses nothing and makes nothing
up: it asks about every block of every file, once and in order, and reports the answers. -/
theorem lintFiles_gathers (paths : List Path) (text : Path → String)
    (hread : ∀ p ∈ paths, t.readText p = .ok (text p))
    (answer : String → Config → List Finding) :
    let nested := Rules.nestedConfig config
    let blocks := fun p => extract (text p) { file := displayPath t root p } limit
    let run := lintFiles t root config (.answering answer) limit paths
    let questions := run.trace.filterMap Event.question?
    questions = paths.flatMap (fun p => (blocks p).map fun b => (b.content, nested)) ∧
      ∃ report, run.result = .ok report ∧
        List.Forall₂ (fun p r =>
          FileReport.Gathers r (displayPath t root p) (blocks p) fun b => answer b.content nested)
          paths report.files ∧
        report.totalFindings = (questions.map fun q => (answer q.1 q.2).length).sum ∧
        report.totalBlocks = questions.length ∧
        (report.passed = true ↔ ∀ q ∈ questions, answer q.1 q.2 = []) := by
  intro nested blocks run questions
  have hrun : run = _ := lintFiles_eq t root config limit (fun _ _ => rfl) hread
  have hquestions : questions = (paths.flatMap blocks).map fun b => (b.content, nested) := by
    show run.trace.filterMap Event.question? = _
    rw [hrun, List.filterMap_flatMap, List.map_flatMap]
    exact List.flatMap_congr fun p hp =>
      questions_lintFile t root config limit answer (hread p hp)
  have htotal : (questions.map fun q => (answer q.1 q.2).length) =
      (paths.flatMap blocks).map fun b => (answer b.content nested).length := by
    rw [hquestions, List.map_map]
    rfl
  refine ⟨by rw [hquestions, List.map_flatMap], _, congrArg Traced.result hrun, ?_, ?_, ?_, ?_⟩
  · rw [List.forall₂_map_right_iff]
    exact List.forall₂_same.mpr fun p _ => FileReport.gathers_ofAnswers _ _ _
  · rw [htotal]
    exact Report.totalFindings_ofAnswers _ _ blocks paths
  · rw [hquestions, List.length_map]
    exact Report.totalBlocks_ofAnswers _ _ blocks paths
  · have hfindings := Report.totalFindings_ofAnswers (displayPath t root)
      (fun b => answer b.content nested) blocks paths
    rw [Report.passed, beq_iff_eq, hfindings, ← htotal, List.sum_eq_zero_iff_forall_eq_nat]
    simp only [List.mem_map, forall_exists_index, and_imp, forall_apply_eq_imp_iff₂,
      List.length_eq_zero_iff]

end Lint

/-- Two files, the first with a clean block, a clean outer block and a finding in the block inside
it, the second without blocks. -/
theorem lintFiles_gathers_inner_finding :
    let text := "```md\n# A\n```\n````md\n```md\n# B\n```\n````\n"
    let t : Tree := ⟨"/docs", [⟨["a.md"], .file text.toUTF8.toList⟩, ⟨["b.md"], .file [0x62]⟩]⟩
    let paths : List Path := [⟨.top, ["a.md"]⟩, ⟨.top, ["b.md"]⟩]
    let texts : Path → String := fun p => if p.parts = ["a.md"] then text else "b"
    let answer : String → Config → List Finding := fun content _ =>
      if content = "# B\n" then [⟨["MD026"], "Trailing punctuation", 1, none, none⟩] else []
    (∀ p ∈ paths, t.readText p = .ok (texts p)) ∧
      ∃ report, (lintFiles t .top [] (.answering answer) none paths).result = .ok report ∧
        report.totalFindings = 1 ∧ report.totalBlocks = 3 ∧ report.passed = false := by
  intro text t paths texts answer
  have hread : ∀ p ∈ paths, t.readText p = .ok (texts p) := by
    simp only [paths, List.forall_mem_cons, List.not_mem_nil, false_imp_iff, implies_true, and_true]
    exact ⟨eq_ok_of_toOption (by decide +kernel), eq_ok_of_toOption (by decide +kernel)⟩
  obtain ⟨hasked, report, hresult, -, hfindings, hblocks, hpassed⟩ :=
    lintFiles_gathers t .top [] none paths texts hread answer
  refine ⟨hread, report, hresult, ?_, ?_, ?_⟩
  · rw [hfindings, hasked]
    decide +kernel
  · rw [hblocks, hasked]
    decide +kernel
  · rw [Bool.eq_false_iff, ne_eq, hpassed, hasked]
    decide +kernel

end FenceLint
