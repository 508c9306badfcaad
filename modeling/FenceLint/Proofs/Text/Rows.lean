import FenceLint.Markdown.Line

/-!
# The rows of a text

A text is read by people row by row: `rows` cuts it at its line feeds, and what follows the last
line feed is a row only if there is something.  This is the notion of a line in which findings are
reported, and it knows nothing of documents and containers.

`Shows l row` says that `row` is the row `l` as a container shows it: some spaces, then an end of
`l`.  Containers nest, so the relation has to compose, which `Shows.trans` proves.

The last section joins the rows of a text to the lines that a document is cut into.
-/

namespace FenceLint.Text

/-- The rows of a text, without their line feeds. -/
def rows : List Char → List (List Char)
  | [] => []
  | c :: cs =>
    if c = '\n' then [] :: rows cs
    else
      match rows cs with
      | [] => [[c]]
      | l :: ls => (c :: l) :: ls

/-- A row up to its line feed. -/
theorem rows_append_newline {l : List Char} (h : '\n' ∉ l) (cs : List Char) :
    rows (l ++ '\n' :: cs) = l :: rows cs := by
  induction l with
  | nil => simp [rows]
  | cons c l ih =>
    rw [List.mem_cons, not_or] at h
    rw [List.cons_append, rows, if_neg (Ne.symm h.1), ih h.2]

/-- A text without line feeds is one row, or none when it is empty. -/
theorem rows_of_newline_not_mem {l : List Char} (h : '\n' ∉ l) :
    rows l = if l = [] then [] else [l] := by
  induction l with
  | nil => rfl
  | cons c l ih =>
    rw [List.mem_cons, not_or] at h
    rw [rows, if_neg (Ne.symm h.1), ih h.2, if_neg (List.cons_ne_nil c l)]
    by_cases hl : l = []
    · rw [if_pos hl, hl]
    · rw [if_neg hl]

/-- What the rows hold, the text holds, and line feeds are not among it. -/
theorem mem_of_mem_rows {cs l : List Char} {c : Char} (hl : l ∈ rows cs) (hc : c ∈ l) :
    c ∈ cs ∧ c ≠ '\n' := by
  induction cs generalizing l with
  | nil => simp [rows] at hl
  | cons d cs ih =>
    rw [rows] at hl
    by_cases hd : d = '\n'
    · rw [if_pos hd, List.mem_cons] at hl
      rcases hl with rfl | hl
      · simp at hc
      · exact (ih hl hc).imp_left (List.mem_cons_of_mem d)
    · rw [if_neg hd] at hl
      cases hr : rows cs with
      | nil =>
        rw [hr, List.mem_singleton] at hl
        subst hl
        rw [List.mem_singleton] at hc
        subst hc
        exact ⟨List.mem_cons_self, hd⟩
      | cons m ms =>
        rw [hr, List.mem_cons] at hl
        rcases hl with rfl | hl
        · rcases List.mem_cons.mp hc with rfl | hc
          · exact ⟨List.mem_cons_self, hd⟩
          · exact (ih (hr ▸ List.mem_cons_self) hc).imp_left (List.mem_cons_of_mem d)
        · exact (ih (hr ▸ List.mem_cons_of_mem m hl) hc).imp_left (List.mem_cons_of_mem d)

/-- No row holds a line feed. -/
theorem newline_not_mem_of_mem_rows {cs l : List Char} (hl : l ∈ rows cs) : '\n' ∉ l :=
  fun h => (mem_of_mem_rows hl h).2 rfl

/-- Nothing but line feeds is lost when a text is cut into rows. -/
theorem exists_mem_rows {cs : List Char} {c : Char} (hc : c ∈ cs) (hne : c ≠ '\n') :
    ∃ l ∈ rows cs, c ∈ l := by
  induction cs with
  | nil => simp at hc
  | cons d cs ih =>
    rw [rows]
    rcases List.mem_cons.mp hc with rfl | hc
    · rw [if_neg hne]
      cases rows cs <;> exact ⟨_, List.mem_cons_self, List.mem_cons_self⟩
    · obtain ⟨l, hl, hcl⟩ := ih hc
      split
      · exact ⟨l, List.mem_cons_of_mem _ hl, hcl⟩
      · cases hr : rows cs with
        | nil => simp [hr] at hl
        | cons m ms =>
          rw [hr, List.mem_cons] at hl
          rcases hl with rfl | hl
          · exact ⟨d :: l, List.mem_cons_self, List.mem_cons_of_mem d hcl⟩
          · exact ⟨l, List.mem_cons_of_mem _ hl, hcl⟩

/-- Row `n` of a text, counted from 1. -/
def rowAt? (cs : List Char) (n : Int) : Option (List Char) :=
  if 1 ≤ n then (rows cs)[(n - 1).toNat]? else none

/-- Counting from 1 and counting from 0. -/
theorem rowAt?_add_one (cs : List Char) (n : Nat) : rowAt? cs (n + 1) = (rows cs)[n]? := by
  rw [rowAt?, if_pos (by omega), Int.add_sub_cancel, Int.toNat_natCast]

/-! ## Rows as containers show them -/

/-- `row` is what a container shows of `l`: spaces, then an end of `l`. -/
def Shows (l row : List Char) : Prop :=
  ∃ n rest, rest <:+ l ∧ row = List.replicate n ' ' ++ rest

/-- An end of an indented row is an end of the row, or the row less indented. -/
theorem suffix_spaces_append {rest l : List Char} {n : Nat}
    (h : rest <:+ List.replicate n ' ' ++ l) :
    rest <:+ l ∨ ∃ k, rest = List.replicate k ' ' ++ l := by
  induction n with
  | zero => exact Or.inl h
  | succ n ih =>
    rw [List.replicate_succ, List.cons_append, List.suffix_cons_iff] at h
    rcases h with rfl | h
    · exact Or.inr ⟨n + 1, rfl⟩
    · exact ih h

/-- Showing a row that is already shown gives a row that shows the first one. -/
theorem Shows.trans {l m row : List Char} (hm : Shows l m) (hrow : Shows m row) : Shows l row := by
  obtain ⟨n, rest, hrest, rfl⟩ := hm
  obtain ⟨k, rest', hrest', rfl⟩ := hrow
  rcases suffix_spaces_append hrest' with h | ⟨j, rfl⟩
  · exact ⟨k, rest', h.trans hrest, rfl⟩
  · refine ⟨k + j, rest, hrest, ?_⟩
    rw [← List.append_assoc, List.replicate_append_replicate]

/-- What stands in a shown row is a space or stands in the row itself. -/
theorem Shows.mem {l row : List Char} (h : Shows l row) {c : Char} (hc : c ∈ row) :
    c = ' ' ∨ c ∈ l := by
  obtain ⟨n, rest, hrest, rfl⟩ := h
  rcases List.mem_append.mp hc with hc | hc
  · exact Or.inl (List.eq_of_mem_replicate hc)
  · exact Or.inr (hrest.mem hc)

end FenceLint.Text

namespace FenceLint.Markdown

open Text

/-! ## Rows and the lines of a document -/

/-- A normalized text holds neither carriage returns nor null characters. -/
theorem not_mem_normalize (cs : List Char) : '\r' ∉ normalize cs ∧ '\x00' ∉ normalize cs := by
  fun_induction normalize cs with
  | case1 => simp
  | case2 cs ih => simpa using ih
  | case3 c cs _ ih =>
    by_cases hr : c = '\r'
    · simpa [hr] using ih
    · by_cases h0 : c = '\x00'
      · simpa [h0] using ih
      · simpa [hr, h0, Ne.symm hr, Ne.symm h0] using ih

/-- A text without carriage returns and null characters is left alone. -/
theorem normalize_eq_self {cs : List Char} (hr : '\r' ∉ cs) (h0 : '\x00' ∉ cs) :
    normalize cs = cs := by
  fun_induction normalize cs with
  | case1 => rfl
  | case2 => simp at hr
  | case3 c cs _ ih =>
    rw [List.mem_cons, not_or] at hr h0
    rw [ih hr.2 h0.2]
    simp [Ne.symm hr.1, Ne.symm h0.1]

/-- The lines from a place on: they are the first rows of the text, and each but the last one ended
in a line feed.  `line` holds, back to front, what has been read of the current line. -/
theorem cutLines_go_spec (line cs : List Char) (hline : '\n' ∉ line) :
    (cutLines.go line cs).map Prod.fst <+: rows (line.reverse ++ cs) ∧
      ∀ i p, (cutLines.go line cs)[i]? = some p → i + 1 < (cutLines.go line cs).length →
        p.2 = true := by
  induction cs generalizing line with
  | nil =>
    rw [cutLines.go, List.append_nil]
    split
    · exact ⟨List.nil_prefix, by simp⟩
    · next hall =>
      have hne : line.reverse ≠ [] := by
        rintro h
        rw [List.reverse_eq_nil_iff] at h
        simp [h] at hall
      rw [rows_of_newline_not_mem (by simpa using hline), if_neg hne]
      refine ⟨List.prefix_refl _, ?_⟩
      intro i p _ hi
      simp at hi
  | cons c cs ih =>
    rw [cutLines.go]
    by_cases hc : c = '\n'
    · -- The line is complete, and the next one starts empty.
      subst hc
      obtain ⟨hrows, hflags⟩ := ih [] (by simp)
      rw [if_pos (by simp), rows_append_newline (by simpa using hline)]
      refine ⟨by simpa using hrows, ?_⟩
      intro i p hp hi
      cases i with
      | zero => simp at hp; simp [← hp]
      | succ i => exact hflags i p (by simpa using hp) (by simpa using hi)
    · have h := ih (c :: line) (by simpa using ⟨fun h => hc h.symm, hline⟩)
      rw [if_neg (by simpa using hc)]
      simpa using h

/-- The lines of a document are the first rows of its text. -/
theorem cutLines_prefix_rows (cs : List Char) : (cutLines cs).map Prod.fst <+: rows cs := by
  simpa [cutLines] using (cutLines_go_spec [] cs (by simp)).1

/-- Every line of a document but the last one ends in a line feed. -/
theorem newline_of_getElem?_cutLines {cs : List Char} {i : Nat} {p : List Char × Bool}
    (hp : (cutLines cs)[i]? = some p) (hi : i + 1 < (cutLines cs).length) : p.2 = true :=
  (cutLines_go_spec [] cs (by simp)).2 i p hp hi

end FenceLint.Markdown
