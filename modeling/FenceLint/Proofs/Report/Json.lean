import FenceLint.Proofs.Json.RoundTrip
import FenceLint.Report.Json

/-!
# Printed reports decode to what they tell

The document of a report is a regular value, whatever texts stand in it, so the text that is printed
gives the document back (`Report.json_decodes`).  Only a number with too many digits stops it, and
then nothing is printed.  The document in turn holds all that a report tells: the files with the
number of their blocks, and the blocks with their findings (`Report.told`).
-/

namespace FenceLint

open Json

/-- What is told of a block with findings: all but its content. -/
def BlockReport.told (e : BlockReport) : BlockReport :=
  { e with block := { e.block with content := "", file := "" } }

namespace Report

/-- The values of the findings of a block. -/
def findingValues (e : BlockReport) : List Value :=
  e.findings.map fun f => findingValue f (e.block.fileLine f)

/-- The value of a block, with the values of its findings. -/
theorem entryValue_eq (e : BlockReport) :
    entryValue e = .object
      [("file_path", .str e.file), ("block_index", .int e.index), ("block_line", .int e.block.line),
       ("depth", .int e.block.depth), ("path", .str e.block.trail), ("info", .str e.block.info),
       ("findings", .list (findingValues e))] := by
  rw [entryValue, BlockReport.located, List.map_map]
  rfl

/-! ## The document is regular -/

theorem regular_ofOption {α : Type} {depth : Nat} {f : α → Value} (hf : ∀ a, Regular depth (f a))
    (o : Option α) : Regular depth (.ofOption f o) := by
  cases o with
  | none => exact .null
  | some a => exact hf a

theorem regular_findingValue {depth : Nat} (f : Finding) (line : Int) :
    Regular (depth + 2) (findingValue f line) := by
  have hnames : ∀ v ∈ f.ruleNames.map Value.str, Regular depth v := by
    intro v hv
    obtain ⟨name, -, rfl⟩ := List.mem_map.1 hv
    exact .str name
  refine .object (by simp) ?_
  simp only [List.forall_mem_cons]
  exact ⟨.int _, .int _, regular_ofOption .int _, .list hnames, .str _, regular_ofOption .str _,
    by simp⟩

theorem regular_entryValue {depth : Nat} (e : BlockReport) :
    Regular (depth + 4) (entryValue e) := by
  have hfindings : ∀ v ∈ findingValues e, Regular (depth + 2) v := by
    intro v hv
    obtain ⟨f, -, rfl⟩ := List.mem_map.1 hv
    exact regular_findingValue f _
  rw [entryValue_eq]
  refine .object (by simp) ?_
  simp only [List.forall_mem_cons]
  exact ⟨.str _, .int _, .int _, .int _, .str _, .str _, .list hfindings, by simp⟩

/-- The document of a report nests six levels deep: the names of the rules stand in a list of a
finding, which stands in a list of a block, which stands in a list of the document. -/
theorem regular_toFields {depth : Nat} (r : Report) : Regular (depth + 6) (.object r.toFields) := by
  have hfiles : ∀ v ∈ r.files.map (fun f =>
      Value.object [("file_path", .str f.file), ("blocks", .int f.blocks)]),
      Regular (depth + 4) v := by
    intro v hv
    obtain ⟨f, -, rfl⟩ := List.mem_map.1 hv
    refine .object (by simp) ?_
    simp only [List.forall_mem_cons]
    exact ⟨.str _, .int _, by simp⟩
  have hentries : ∀ v ∈ r.entries.map entryValue, Regular (depth + 4) v := by
    intro v hv
    obtain ⟨e, -, rfl⟩ := List.mem_map.1 hv
    exact regular_entryValue e
  have hsummary : Regular (depth + 5) (.object
      [("total_files", .int r.totalFiles), ("total_blocks", .int r.totalBlocks),
       ("total_findings", .int r.totalFindings), ("passed", .bool r.passed)]) := by
    refine .object (by simp) ?_
    simp only [List.forall_mem_cons]
    exact ⟨.int _, .int _, .int _, .bool _, by simp⟩
  refine .object (by simp [toFields]) ?_
  simp only [toFields, List.forall_mem_cons]
  exact ⟨.list hfiles, .list hentries, hsummary, by simp⟩

/-! ## What a report tells -/

/-- The files with the number of their blocks, and the blocks with findings. -/
def told (r : Report) : List (String × Nat) × List BlockReport :=
  (r.files.map fun f => (f.file, f.blocks), r.entries.map BlockReport.told)

/-- If what one function says of two items settles what another one says, it does so of lists. -/
theorem map_eq_of_map_eq {α β γ : Type} {f f' : α → β} {g : α → γ}
    (h : ∀ a b, f a = f' b → g a = g b) {as bs : List α} (heq : as.map f = bs.map f') :
    as.map g = bs.map g := by
  induction as generalizing bs with
  | nil =>
    obtain rfl : bs = [] := by simpa using heq.symm
    rfl
  | cons a as ih =>
    cases bs with
    | nil => simp at heq
    | cons b bs =>
      obtain ⟨hhead, htail⟩ : f a = f' b ∧ as.map f = bs.map f' := by simpa using heq
      rw [List.map_cons, List.map_cons, h a b hhead, ih htail]

theorem eq_of_ofOption_eq {α : Type} {f : α → Value} (hnull : ∀ a, f a ≠ .null)
    (hf : ∀ a b, f a = f b → a = b) {o o' : Option α} (h : Value.ofOption f o = .ofOption f o') :
    o = o' := by
  cases o with
  | none =>
    cases o' with
    | none => rfl
    | some b => exact absurd h.symm (hnull b)
  | some a =>
    cases o' with
    | none => exact absurd h (hnull a)
    | some b => rw [hf a b h]

/-- A finding can be told from its value. -/
theorem eq_of_findingValue_eq {f f' : Finding} {line line' : Int}
    (h : findingValue f line = findingValue f' line') : f = f' := by
  simp only [findingValue, Value.object.injEq, List.cons.injEq, Prod.mk.injEq, Value.int.injEq,
    Value.list.injEq, Value.str.injEq, true_and, and_true] at h
  obtain ⟨-, hline, hcolumn, hnames, hdescription, hdetail⟩ := h
  have hnames : f.ruleNames = f'.ruleNames := by
    simpa using map_eq_of_map_eq (g := id) (fun a b hab => by simpa using hab) hnames
  have hcolumn := eq_of_ofOption_eq (by simp) (by simp) hcolumn
  have hdetail := eq_of_ofOption_eq (by simp) (by simp) hdetail
  cases f
  cases f'
  simp_all

/-- What is told of a block can be told from its value. -/
theorem told_eq_of_entryValue_eq {e e' : BlockReport} (h : entryValue e = entryValue e') :
    e.told = e'.told := by
  simp only [entryValue_eq, Value.object.injEq, List.cons.injEq, Prod.mk.injEq, Value.int.injEq,
    Value.list.injEq, Value.str.injEq, true_and, and_true, findingValues, Int.ofNat_inj] at h
  obtain ⟨hfile, hindex, hline, hdepth, htrail, hinfo, hfindings⟩ := h
  have hfindings : e.findings = e'.findings := by
    simpa using map_eq_of_map_eq (g := id) (fun a b hab => eq_of_findingValue_eq hab) hfindings
  simp [BlockReport.told, hfile, hindex, hline, hdepth, htrail, hinfo, hfindings]

/-- What a report tells can be told from its document. -/
theorem told_eq_of_toFields_eq {r r' : Report} (h : r.toFields = r'.toFields) :
    r.told = r'.told := by
  simp only [toFields, List.cons.injEq, Prod.mk.injEq, Value.list.injEq, true_and, and_true] at h
  obtain ⟨hfiles, hentries, -⟩ := h
  have hfiles := map_eq_of_map_eq (g := fun f => (f.file, f.blocks))
    (fun a b hab => by simpa [Int.ofNat_inj] using hab) hfiles
  have hentries := map_eq_of_map_eq (g := BlockReport.told)
    (fun a b hab => told_eq_of_entryValue_eq hab) hentries
  rw [told, told, hfiles, hentries]

/-! ## The text -/

/-- The numbers in the document of a report. -/
def numbers (r : Report) : List Int := (Value.object r.toFields).wholeNumbers

theorem mem_entries_of_mem_files {r : Report} {f : FileReport} {e : BlockReport}
    (hf : f ∈ r.files) (he : e ∈ f.entries) : e ∈ r.entries :=
  List.mem_flatMap.2 ⟨f, hf, he⟩

/-- The lines of the findings are among the numbers. -/
theorem fileLine_mem_numbers {r : Report} {e : BlockReport} (he : e ∈ r.entries) {f : Finding}
    (hf : f ∈ e.findings) : e.block.fileLine f ∈ r.numbers := by
  have hfinding : e.block.fileLine f ∈ (findingValue f (e.block.fileLine f)).wholeNumbers :=
    mem_wholeNumbersOfFields List.mem_cons_self (by simp [Value.wholeNumbers])
  have hfindings : e.block.fileLine f ∈ (Value.list (findingValues e)).wholeNumbers :=
    mem_wholeNumbersOfItems (List.mem_map.2 ⟨f, hf, rfl⟩) hfinding
  have hentry : e.block.fileLine f ∈ (entryValue e).wholeNumbers := by
    rw [entryValue_eq]
    exact mem_wholeNumbersOfFields (f := ("findings", _)) (by simp) hfindings
  have hissues : e.block.fileLine f ∈ (Value.list (r.entries.map entryValue)).wholeNumbers :=
    mem_wholeNumbersOfItems (List.mem_map_of_mem he) hentry
  exact mem_wholeNumbersOfFields (f := ("issues", _)) (by simp [toFields]) hissues

/-- A report is printed as the text of its document, unless a number is too long. -/
theorem json_cases (r : Report) :
    ((∀ n ∈ r.numbers, Text.isShort n = true) ∧ ∃ written,
      write? (.object r.toFields) = some written ∧ r.json = { text := written ++ "\n" }) ∨
    ((∃ n ∈ r.numbers, Text.isShort n = false) ∧ r.json = { fault := some .longNumber }) := by
  rw [json]
  cases hwrite : write? (.object r.toFields) with
  | some written => exact .inl ⟨(write?_eq_some_iff.1 hwrite).1, written, rfl, rfl⟩
  | none => exact .inr ⟨write?_eq_none_iff.1 hwrite, rfl⟩

/-- The line feed at the end is white space. -/
theorem white_lineFeed : White "\n".toList := by
  simp [White, whiteChars]

/-- The text of a printed report is read as its document. -/
theorem read_of_json {r : Report} {text : String} (h : r.json = { text }) :
    Json.read text = .ok (.object r.toFields) ∧
      ∀ source, Config.parse text source = .ok r.toFields := by
  have hregular : Regular Limit.maxDepth (.object r.toFields) := @regular_toFields 984 r
  rcases r.json_cases with ⟨-, written, hwrite, hjson⟩ | ⟨-, hjson⟩
  · rw [hjson, Markup.Printed.mk.injEq] at h
    obtain ⟨rfl, -⟩ := h
    exact ⟨hregular.read_of_write hwrite white_lineFeed,
      hregular.parse_of_write hwrite white_lineFeed⟩
  · rw [hjson, Markup.Printed.mk.injEq] at h
    exact absurd h.2 (by simp)

/-- Reports that are printed with the same text tell the same.  One that is not printed is not taken
for one that is, since that one ends with a line feed. -/
theorem told_eq_of_text_eq {r r' : Report} (hfault : r.json.fault = none)
    (htext : r.json.text = r'.json.text) : r.told = r'.told := by
  rcases r.json_cases with ⟨-, written, -, hjson⟩ | ⟨-, hjson⟩
  · rcases r'.json_cases with ⟨-, written', -, hjson'⟩ | ⟨-, hjson'⟩
    · have hread := (read_of_json hjson).1
      rw [hjson, hjson'] at htext
      rw [show written ++ "\n" = written' ++ "\n" from htext, (read_of_json hjson').1] at hread
      exact told_eq_of_toFields_eq (Value.object.inj (Except.ok.inj hread)).symm
    · rw [hjson, hjson'] at htext
      have hlength := congrArg String.length htext
      simp at hlength
  · rw [hjson] at hfault
    contradiction

/-- A printed report decodes to its document, whatever texts it holds; only a number with too many
digits keeps it from being printed.  So reports that do not tell the same are not printed the
same. -/
theorem json_decodes (r : Report) :
    ((∀ n ∈ r.numbers, Text.isShort n = true) → ∃ text, r.json = { text } ∧
      ∀ source, Config.parse text source = .ok r.toFields) ∧
    ((∃ n ∈ r.numbers, Text.isShort n = false) → r.json = { fault := some .longNumber }) ∧
    ∀ r' : Report, r.json.fault = none → r.json.text = r'.json.text → r.told = r'.told := by
  refine ⟨fun hshort => ?_, fun hlong => ?_, fun r' => told_eq_of_text_eq⟩
  · rcases r.json_cases with ⟨-, written, -, hjson⟩ | ⟨hlong, -⟩
    · exact ⟨_, hjson, (read_of_json hjson).2⟩
    · exact (Text.false_of_short_of_long hshort hlong).elim
  · rcases r.json_cases with ⟨hshort, -⟩ | ⟨-, hjson⟩
    · exact (Text.false_of_short_of_long hshort hlong).elim
    · exact hjson

/-- A report whose texts hold quotes, escapes, control characters and what looks like comments and
extra commas. -/
def disguisedReport : Report :=
  ⟨[⟨"a\"//.md", 2, [⟨"a\"//.md",
      { content := "x\n", line := 3, depth := 0, trail := "1", info := "md /* \\", file := "" }, 1,
      [⟨["MD\t001", ",]"], "*/ \x01\n // \\\"", -7, none, some "\u00df\x7d"⟩]⟩]⟩,
    ⟨"b.md", 0, []⟩]⟩

/-- The texts of the report come back as they are: nothing in them is taken for a comment or an
extra comma. -/
theorem json_decodes_disguisedReport : ∃ text, disguisedReport.json = { text } ∧
    Config.parse text = .ok disguisedReport.toFields := by
  have hshort : ∀ n ∈ disguisedReport.numbers, Text.isShort n = true := by decide +kernel
  obtain ⟨text, hjson, hparse⟩ := (json_decodes disguisedReport).1 hshort
  exact ⟨text, hjson, hparse "<string>"⟩

/-- An entry with one finding, in the first line of a block whose fence is on the given line. -/
def firstLineEntry (line : Int) : BlockReport :=
  ⟨"a.md", { content := "x\n", line, depth := 0, trail := "p", info := "md", file := "" }, 1,
    [⟨["MD001"], "d", 1, none, none⟩]⟩

/-- A report with this entry only. -/
def firstLineReport (line : Int) : Report := ⟨[⟨"a.md", 1, [firstLineEntry line]⟩]⟩

/-- The line of the finding is one behind that of the fence, and stands in the document. -/
theorem mem_numbers_firstLineReport (line : Int) : line + 1 ∈ (firstLineReport line).numbers := by
  have he : firstLineEntry line ∈ (firstLineReport line).entries := List.mem_cons_self
  exact fileLine_mem_numbers he List.mem_cons_self

/-- The numbers of a report may all be short, but not the line of a finding, which is a sum. -/
theorem firstLineReport_not_decoded :
    ¬ ∃ text, (firstLineReport (Text.leastLong - 1)).json = { text } ∧
      Config.parse text = .ok (firstLineReport (Text.leastLong - 1)).toFields := by
  rintro ⟨text, hjson, -⟩
  have hnumber := mem_numbers_firstLineReport (Text.leastLong - 1)
  rw [Int.sub_add_cancel] at hnumber
  rcases (firstLineReport (Text.leastLong - 1)).json_cases with ⟨hshort, -⟩ | ⟨-, hjson'⟩
  · exact Text.false_of_short_of_long hshort ⟨_, hnumber, Text.isShort_leastLong⟩
  · rw [hjson', Markup.Printed.mk.injEq] at hjson
    exact absurd hjson.2 (by simp)

end Report

end FenceLint
