import FenceLint.Proofs.Report.Json
import FenceLint.Proofs.Run.Findings

/-!
# Documents that agree with themselves

The document of a report says some things more than once: the summary counts what the lists hold,
and every issue belongs to a file.  `Document.Consistent` states what a reader of the document alone
can check, and `Report.agrees_toFields` proves it for reports whose files are `Numbered`, as those
of every run are (`FileReport.Gathers.numbered`).
-/

namespace FenceLint

/-- The entries of a file stand under numbers of its blocks, in increasing order, and none of them
is without findings. -/
structure FileReport.Numbered (r : FileReport) : Prop where
  file_eq : ∀ e ∈ r.entries, e.file = r.file
  index_pos : ∀ e ∈ r.entries, 1 ≤ e.index
  index_le : ∀ e ∈ r.entries, e.index ≤ r.blocks
  findings_ne_nil : ∀ e ∈ r.entries, e.findings ≠ []
  increasing : r.entries.Pairwise fun e e' => e.index < e'.index

/-- A report that gathers the answers on the blocks of a file is numbered. -/
theorem FileReport.Gathers.numbered {r : FileReport} {file : String} {blocks : List Block}
    {answer : Block → List Finding} (h : r.Gathers file blocks answer) : r.Numbered := by
  refine ⟨fun e he => ?_, fun e he => ?_, fun e he => ?_, fun e he => ?_, h.increasing⟩ <;>
    obtain ⟨i, b, hb, hne, rfl⟩ := (h.mem_entries e).1 he
  · exact h.file_eq.symm
  · exact Nat.le_add_left 1 i
  · rw [h.blocks_eq]
    exact (List.getElem?_eq_some_iff.1 hb).1
  · exact hne

open Json

/-- The value of a field of an object. -/
def Json.Value.field? (v : Value) (key : String) : Option Value :=
  match v with
  | .object fields => Fields.get? fields key
  | _ => none

namespace Document

/-- The issues belong to the file: they name it, have numbers of its blocks in increasing order, and
have findings, whose lines are counted from the line of the block. -/
structure IssuesOf (file : Value) (issues : List Value) : Prop where
  named : ∀ issue ∈ issues, ∃ path, issue.field? "file_path" = some (.str path) ∧
    file.field? "file_path" = some (.str path)
  numbered : ∀ issue ∈ issues, ∃ index blocks : Int, 1 ≤ index ∧ index ≤ blocks ∧
    issue.field? "block_index" = some (.int index) ∧ file.field? "blocks" = some (.int blocks)
  increasing : issues.Pairwise fun issue later => ∃ m n : Int, m < n ∧
    issue.field? "block_index" = some (.int m) ∧ later.field? "block_index" = some (.int n)
  located : ∀ issue ∈ issues, ∃ line found, issue.field? "block_line" = some (.int line) ∧
    issue.field? "findings" = some (.list found) ∧ found ≠ [] ∧
    ∀ f ∈ found, ∃ n, f.field? "nested_line_number" = some (.int n) ∧
      f.field? "line_number" = some (.int (line + n))

/-- The parts of a document agree with each other and with the answer to the system: the summary
counts what is listed, and the issues come file by file. -/
structure Consistent (files issues : List Value) (summary : Value) (exitCode : Nat) : Prop where
  passed : summary.field? "passed" = some (.bool (exitCode == 0))
  clean : exitCode = 0 ↔ issues = []
  totalFiles : summary.field? "total_files" = some (.int files.length)
  totalBlocks : ∃ counts : List Nat,
    files.map (·.field? "blocks") = counts.map (fun n => some (.int n)) ∧
      summary.field? "total_blocks" = some (.int counts.sum)
  totalFindings : ∃ found : List (List Value),
    issues.map (·.field? "findings") = found.map (fun vs => some (.list vs)) ∧
      summary.field? "total_findings" = some (.int (found.map List.length).sum)
  fileOrder : ∃ groups, issues = groups.flatten ∧ List.Forall₂ IssuesOf files groups

/-- The document has the parts it should have, and they agree. -/
def Agrees (document : Fields) (exitCode : Nat) : Prop :=
  ∃ files issues summary, document.get? "files" = some (.list files) ∧
    document.get? "issues" = some (.list issues) ∧ document.get? "summary" = some summary ∧
    Consistent files issues summary exitCode

end Document

namespace Report

open Document

/-- The issues of a numbered file belong to it. -/
theorem issuesOf_entries {r : FileReport} (h : r.Numbered) :
    IssuesOf (.object [("file_path", .str r.file), ("blocks", .int r.blocks)])
      (r.entries.map entryValue) where
  named := by
    rw [List.forall_mem_map]
    intro e he
    exact ⟨r.file, congrArg (some ∘ Value.str) (h.file_eq e he), rfl⟩
  numbered := by
    rw [List.forall_mem_map]
    intro e he
    have hpos := h.index_pos e he
    have hle := h.index_le e he
    exact ⟨e.index, r.blocks, by omega, by omega, rfl, rfl⟩
  increasing := by
    rw [List.pairwise_map]
    refine h.increasing.imp fun {e e'} hlt => ?_
    exact ⟨e.index, e'.index, by omega, rfl, rfl⟩
  located := by
    rw [List.forall_mem_map]
    intro e he
    rw [entryValue_eq]
    refine ⟨e.block.line, findingValues e, rfl, rfl, ?_, ?_⟩
    · exact fun hnil => h.findings_ne_nil e he (List.map_eq_nil_iff.1 hnil)
    · rw [findingValues, List.forall_mem_map]
      exact fun f _ => ⟨f.line, rfl, rfl⟩

/-- A numbered report has passed if and only if there are no issues. -/
theorem passed_iff_entries_eq_nil {r : Report} (h : ∀ f ∈ r.files, f.Numbered) :
    r.passed = true ↔ r.entries = [] := by
  rw [passed, beq_iff_eq]
  constructor
  · intro hzero
    refine List.eq_nil_iff_forall_not_mem.2 fun e he => ?_
    obtain ⟨f, hf, hef⟩ := List.mem_flatMap.1 he
    have hlength := List.sum_eq_zero_iff_forall_eq_nat.1 hzero e.findings.length
      (List.mem_map_of_mem he)
    exact (h f hf).findings_ne_nil e hef (List.length_eq_zero_iff.1 hlength)
  · intro hnil
    rw [totalFindings, hnil]
    rfl

/-- The document of a numbered report agrees with itself, and with the answer to the system. -/
theorem agrees_toFields {r : Report} (h : ∀ f ∈ r.files, f.Numbered) :
    Agrees r.toFields (if r.passed then 0 else 1) := by
  refine ⟨_, _, _, rfl, rfl, rfl, ?_, ?_, ?_, ?_, ?_, ?_⟩
  · cases hpassed : r.passed with
    | true => rfl
    | false => rfl
  · rw [List.map_eq_nil_iff, ← passed_iff_entries_eq_nil h]
    cases r.passed with
    | true => simp
    | false => simp
  · rw [List.length_map]
    rfl
  · refine ⟨r.files.map (·.blocks), ?_, rfl⟩
    rw [List.map_map, List.map_map]
    rfl
  · refine ⟨r.entries.map findingValues, ?_, ?_⟩
    · rw [List.map_map, List.map_map]
      refine List.map_congr_left fun e _ => ?_
      rw [Function.comp_apply, Function.comp_apply, entryValue_eq]
      rfl
    · have hlengths : (r.entries.map findingValues).map List.length =
          r.entries.map (·.findings.length) := by
        rw [List.map_map]
        exact List.map_congr_left fun e _ => List.length_map _
      rw [hlengths]
      rfl
  · refine ⟨r.files.map fun f => f.entries.map entryValue, ?_, ?_⟩
    · rw [entries, List.map_flatMap, List.flatMap_def]
    · rw [List.forall₂_map_left_iff, List.forall₂_map_right_iff]
      exact List.forall₂_same.2 fun f hf => issuesOf_entries (h f hf)

end Report

end FenceLint
