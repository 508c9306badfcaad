import FenceLint.Proofs.Markdown.View

/-!
# The fences of a document are parts of it

A parser of blocks gives the fences that it finds and the line at which it stops.  `Laid doc i fs j`
is what the answer of every parser of this library satisfies: the fences `fs` stand one after the
other between the lines `i` and `j` of the document `doc`, and each is faithful to it, so that its
content can be read off the rows between its fences.

The proof goes through the kinds of blocks once (`laid_block`).  The loops over the blocks of a
region and over the items of a list join the answers, and the nesting of containers is an induction
on the levels that are left.

Main statement: `laid_fences`, for whole documents.
-/

namespace FenceLint.Markdown

open Text

/-- The fence stands in the document, and row `j` of its content shows the row of the document that
stands `j + 1` rows below the opening line. -/
structure Fence.Faithful (doc : List (List Char)) (f : Fence) : Prop where
  start_lt_stop : f.start < f.stop
  stop_le : f.stop ≤ doc.length
  row : ∀ j row, (rows f.content.toList)[j]? = some row →
    f.start + 1 + j < f.stop ∧ Shows (doc.getD (f.start + 1 + j) []) row

/-- The content of a fence has no more rows than stand between its fences. -/
theorem Fence.Faithful.rows_content_le {doc : List (List Char)} {f : Fence} (h : f.Faithful doc) :
    f.start + 1 + (rows f.content.toList).length ≤ f.stop := by
  have hstop := h.start_lt_stop
  rcases Nat.eq_zero_or_pos (rows f.content.toList).length with hnone | hsome
  · omega
  · -- The last row stands before the end of the fence.
    have hlast := (h.row ((rows f.content.toList).length - 1) _
      (List.getElem?_eq_getElem (by omega))).1
    omega

/-- Fences of a document in order, from line `i` on and before line `j`. -/
inductive Laid (doc : List (List Char)) : Nat → List Fence → Nat → Prop where
  | nil {i j : Nat} (h : i ≤ j) : Laid doc i [] j
  | cons {i j : Nat} {f : Fence} {fs : List Fence} (hf : f.Faithful doc) (hi : i ≤ f.start)
      (hfs : Laid doc f.stop fs j) : Laid doc i (f :: fs) j

namespace Laid

variable {doc : List (List Char)} {i j k : Nat} {fs gs : List Fence}

/-- More room before the fences does no harm. -/
theorem mono_left (h : Laid doc j fs k) (hij : i ≤ j) : Laid doc i fs k := by
  cases h with
  | nil hjk => exact nil (Nat.le_trans hij hjk)
  | cons hf hj hfs => exact cons hf (Nat.le_trans hij hj) hfs

/-- More room after the fences does no harm. -/
theorem mono_right (h : Laid doc i fs j) (hjk : j ≤ k) : Laid doc i fs k := by
  induction h with
  | nil hij => exact nil (Nat.le_trans hij hjk)
  | cons hf hi _ ih => exact cons hf hi (ih hjk)

/-- Fences that follow each other. -/
theorem append (h : Laid doc i fs j) (h' : Laid doc j gs k) : Laid doc i (fs ++ gs) k := by
  induction h with
  | nil hij => exact h'.mono_left hij
  | cons hf hi _ ih => exact cons hf hi (ih h')

/-- Each of the fences is faithful. -/
theorem faithful (h : Laid doc i fs j) {f : Fence} (hf : f ∈ fs) : f.Faithful doc := by
  induction h with
  | nil => simp at hf
  | cons hfirst _ _ ih =>
    rcases List.mem_cons.mp hf with rfl | hf
    · exact hfirst
    · exact ih hf

end Laid

namespace Region

variable {doc : List (List Char)} {r : Region}

/-! ## One fence -/

/-- The search for the end of a fence stops inside the region, at a line of it if that closes the
fence. -/
theorem fenceEnd_go_spec (mark : Char) (count n i : Nat) :
    i ≤ (fenceEnd.go r mark count n i).1 ∧ (fenceEnd.go r mark count n i).1 ≤ i + n ∧
      ((fenceEnd.go r mark count n i).2 = true → (fenceEnd.go r mark count n i).1 < i + n) := by
  induction n generalizing i with
  | zero => simp [fenceEnd.go]
  | succ n ih =>
    rw [fenceEnd.go]
    split
    · simp
    · split
      · simp
      · split
        · simp
        · obtain ⟨h1, h2, h3⟩ := ih (i + 1)
          exact ⟨by omega, by omega, fun h => by have := h3 h; omega⟩

/-- A line of verbatim text shows the row of the document that it comes from. -/
theorem shows_dedent (hr : Tracks doc r.lines) (indent i : Nat) :
    Shows (doc.getD i []) (Line.dedent (r.line i).base indent 0 (r.line i).text) := by
  obtain ⟨n, rest, hrest, heq⟩ :=
    Line.dedent_eq_spaces_append (r.line i).base indent 0 (r.line i).text
  exact ⟨n, rest, hrest.trans (hr.within i).text, heq⟩

/-- The rows of verbatim text show the rows of the document that they come from. -/
theorem rows_verbatim (hr : Tracks doc r.lines) (indent : Nat) {i n : Nat}
    (hn : i + n ≤ r.lines.size) {j : Nat} {row : List Char}
    (h : (rows (r.verbatim indent i n))[j]? = some row) :
    j < n ∧ Shows (doc.getD (i + j) []) row := by
  induction n generalizing i j with
  | zero => simp [verbatim, rows] at h
  | succ n ih =>
    have hshows := shows_dedent hr indent i
    have hline : '\n' ∉ Line.dedent (r.line i).base indent 0 (r.line i).text := by
      intro hmem
      rcases hshows.mem hmem with h' | h'
      · exact absurd h' (by decide)
      · exact hr.rows i h'
    have hsplit : r.verbatim indent i (n + 1) =
        (r.line i).verbatim indent ++ r.verbatim indent (i + 1) n := by
      simp [verbatim, List.range'_succ]
    rw [hsplit, Line.verbatim] at h
    by_cases hnewline : (r.line i).newline = true
    · rw [if_pos hnewline, List.append_assoc, List.singleton_append,
        rows_append_newline hline] at h
      cases j with
      | zero =>
        obtain rfl : _ = row := by simpa using h
        exact ⟨Nat.succ_pos n, hshows⟩
      | succ j =>
        obtain ⟨hj, hrow⟩ := ih (i := i + 1) (by omega) (j := j) (by simpa using h)
        exact ⟨by omega, by rwa [show i + (j + 1) = i + 1 + j by omega]⟩
    · -- Only the last line of the document has no line feed, so nothing follows it.
      have hlast : n = 0 := by
        rcases Nat.eq_zero_or_pos n with h0 | hpos
        · exact h0
        · exact absurd (hr.newline i (by omega)) hnewline
      subst hlast
      rw [if_neg hnewline, List.append_nil, show r.verbatim indent (i + 1) 0 = [] from rfl,
        List.append_nil, rows_of_newline_not_mem hline] at h
      split at h
      · simp at h
      · cases j with
        | zero =>
          obtain rfl : _ = row := by simpa using h
          exact ⟨Nat.succ_pos 0, hshows⟩
        | succ j => simp at h

/-- A fence that opens in the region is a part of the document, and starts where it is looked for.
-/
theorem faithful_of_fence? (hr : r.Follows doc) {i : Nat} (hi : i < r.stop) {f : Fence}
    (hf : r.fence? i = some f) : f.start = i ∧ f.Faithful doc := by
  rw [fence?, Option.map_eq_some_iff] at hf
  obtain ⟨⟨mark, count, info⟩, -, rfl⟩ := hf
  obtain ⟨hge, hle, hclosed⟩ := fenceEnd_go_spec (r := r) mark count (r.stop - (i + 1)) (i + 1)
  obtain ⟨last, closed, hend⟩ : ∃ last closed, r.fenceEnd mark count (i + 1) = (last, closed) :=
    ⟨_, _, rfl⟩
  have hend' : fenceEnd.go r mark count (r.stop - (i + 1)) (i + 1) = (last, closed) := hend
  rw [hend'] at hge hle hclosed
  have hstop := hr.stop_le
  have hsize := hr.tracks.size_le
  have hlast : last ≤ if closed then last + 1 else last := by split <;> omega
  refine ⟨rfl, ?_⟩
  simp only [hend]
  refine ⟨by dsimp only at *; omega, ?_, ?_⟩
  · cases closed with
    | false => simpa using by omega
    | true =>
      have := hclosed rfl
      simpa using by omega
  · intro j row hrow
    rw [String.toList_ofList] at hrow
    obtain ⟨hj, hshows⟩ := rows_verbatim hr.tracks _ (by dsimp only at *; omega) hrow
    exact ⟨by dsimp only at *; omega, hshows⟩

/-! ## Blocks without fences

They only have to end after they start. -/

/-- Skipping blank lines does not go back. -/
theorem le_skipBlank (i : Nat) : i ≤ r.skipBlank i := by
  have hgo : ∀ n i, i ≤ skipBlank.go r n i := by
    intro n
    induction n with
    | zero => exact fun i => Nat.le_refl i
    | succ n ih =>
      intro i
      rw [skipBlank.go]
      split
      · exact Nat.le_trans (Nat.le_succ i) (ih (i + 1))
      · exact Nat.le_refl i
  exact hgo _ i

theorem le_of_tableEnd? {i j : Nat} (h : r.tableEnd? i = some j) : i ≤ j := by
  have hgo : ∀ ends columns n i filled, i ≤ rowsEnd.go r ends columns n i filled := by
    intro ends columns n
    induction n with
    | zero => exact fun i _ => Nat.le_refl i
    | succ n ih =>
      intro i filled
      simp only [rowsEnd.go]
      split
      · exact Nat.le_refl i
      · split
        · exact Nat.le_refl i
        · exact Nat.le_trans (Nat.le_succ i) (ih (i + 1) _)
  rw [tableEnd?, Option.map_eq_some_iff] at h
  obtain ⟨columns, -, rfl⟩ := h
  exact Nat.le_trans (by omega) (hgo _ columns _ (i + 2) 0)

theorem le_of_code? {i j : Nat} (h : r.code? i = some j) : i ≤ j := by
  have hgo : ∀ n i last, last ≤ i → last ≤ codeEnd.go r n i last := by
    intro n
    induction n with
    | zero => exact fun i last _ => Nat.le_refl last
    | succ n ih =>
      intro i last hlast
      rw [codeEnd.go]
      split
      · exact ih (i + 1) last (by omega)
      · split
        · exact Nat.le_trans (by omega) (ih (i + 1) (i + 1) (Nat.le_refl _))
        · exact Nat.le_refl last
  rw [code?] at h
  split at h
  · obtain rfl : _ = j := by simpa using h
    exact Nat.le_trans (Nat.le_succ i) (hgo _ (i + 1) (i + 1) (Nat.le_refl _))
  · simp at h

theorem le_of_referenceEnd? {i j : Nat} (h : r.referenceEnd? i = some j) : i ≤ j := by
  rw [referenceEnd?] at h
  split at h
  · split at h
    · simp at h
    · rw [Option.map_eq_some_iff] at h
      obtain ⟨unused, -, rfl⟩ := h
      omega
  · simp at h

theorem le_of_underlinedEnd? {i j : Nat} (h : r.underlinedEnd? i = some j) : i ≤ j := by
  have hgo : ∀ n i, underlinedEnd?.go r n i = some j → i ≤ j := by
    intro n
    induction n with
    | zero => simp [underlinedEnd?.go]
    | succ n ih =>
      intro i h
      rw [underlinedEnd?.go] at h
      split at h
      · simp at h
      · split at h
        · obtain rfl : i + 1 = j := by simpa using h
          exact Nat.le_succ i
        · split at h
          · exact Nat.le_trans (Nat.le_succ i) (ih (i + 1) h)
          · simp at h
  exact Nat.le_trans (Nat.le_succ i) (hgo _ (i + 1) h)

theorem le_paragraphEnd (i : Nat) : i ≤ r.paragraphEnd i := by
  have hgo : ∀ n i, i ≤ paragraphEnd.go r n i := by
    intro n
    induction n with
    | zero => exact fun i => Nat.le_refl i
    | succ n ih =>
      intro i
      rw [paragraphEnd.go]
      split
      · exact Nat.le_trans (Nat.le_succ i) (ih (i + 1))
      · exact Nat.le_refl i
  exact Nat.le_trans (Nat.le_succ i) (hgo _ (i + 1))

/-! ## Containers and loops -/

/-- The parser lays out the fences of every region of the document. -/
def Lays (doc : List (List Char)) (p : BlockParser) : Prop :=
  ∀ ⦃r : Region⦄, r.Follows doc → ∀ i, Laid doc i (p r i).1 (p r i).2

/-- An item is laid out when what it contains is. -/
theorem laid_item {inner : BlockParser} (hinner : Lays doc inner) (hr : r.Follows doc) {i : Nat}
    (hi : i < r.stop) (m : Marker) {rest : List Char} (hrest : rest <:+ r.body i) :
    Laid doc i (r.item inner i m rest).1 (r.item inner i m rest).2 := by
  simp only [item]
  split
  · exact .nil (by omega)
  · exact hinner (hr.insideItem m hrest _ _) i

/-- The items of a list follow each other. -/
theorem laid_items {inner : BlockParser} (hinner : Lays doc inner) (hr : r.Follows doc)
    (first : Marker) (n : Nat) {i : Nat} (hi : i < r.stop) (m : Marker) {rest : List Char}
    (hrest : rest <:+ r.body i) :
    Laid doc i (r.items inner first n i m rest).1 (r.items inner first n i m rest).2 := by
  induction n generalizing i m rest with
  | zero => exact .nil (Nat.le_refl i)
  | succ n ih =>
    have hitem := laid_item hinner hr hi m hrest
    simp only [items]
    split
    · exact hitem
    · next m' rest' hnext =>
      obtain ⟨hj, hrest'⟩ := suffix_of_nextMarker? hnext
      exact hitem.append (ih hj m' hrest')

/-- A block without fences is laid out when it ends after it starts. -/
theorem laid_plain {stop? : Option Nat} {i : Nat} {out : List Fence × Nat}
    (h : plain stop? = some out) (hle : ∀ j, stop? = some j → i ≤ j) : Laid doc i out.1 out.2 := by
  rw [plain, Option.map_eq_some_iff] at h
  obtain ⟨j, hj, rfl⟩ := h
  exact .nil (hle j hj)

/-- Every kind of block is laid out. -/
theorem laid_block {inQuote inList : BlockParser} (hquote : Lays doc inQuote)
    (hlist : Lays doc inList) (hr : r.Follows doc) {i : Nat} (hi : i < r.stop) :
    Laid doc i (r.block inQuote inList i).1 (r.block inQuote inList i).2 := by
  have hline : ∀ b : Bool, ∀ j, (if b then some (i + 1) else none) = some j → i ≤ j := by
    intro b j hj
    split at hj
    · obtain rfl : i + 1 = j := by simpa using hj
      exact Nat.le_succ i
    · simp at hj
  rw [block]
  generalize hout : (plain (r.tableEnd? i) <|> _) = out
  cases out with
  | none => exact .nil (r.le_paragraphEnd i)
  | some out =>
    simp only [Option.orElse_eq_orElse, Option.orElse_eq_or, Option.or_eq_some_iff] at hout
    rcases hout with h | ⟨-, h | ⟨-, h | ⟨-, h | ⟨-, h | ⟨-, h | ⟨-, h | ⟨-, h | ⟨-, h⟩⟩⟩⟩⟩⟩⟩⟩
    · exact laid_plain h fun j => le_of_tableEnd?
    · exact laid_plain h fun j => le_of_code?
    · rw [Option.map_eq_some_iff] at h
      obtain ⟨f, hf, rfl⟩ := h
      obtain ⟨hstart, hfaithful⟩ := faithful_of_fence? hr hi hf
      exact .cons hfaithful (Nat.le_of_eq hstart.symm) (.nil (Nat.le_refl _))
    · split at h
      · obtain rfl : _ = out := by simpa using h
        exact hquote (hr.insideQuote hi) i
      · simp at h
    · exact laid_plain h (hline _)
    · rw [list?, Option.map_eq_some_iff] at h
      obtain ⟨⟨m, rest⟩, hm, rfl⟩ := h
      exact laid_items hlist hr m _ hi m (suffix_of_marker? hm)
    · exact laid_plain h fun j => le_of_referenceEnd?
    · exact laid_plain h (hline _)
    · exact laid_plain h fun j => le_of_underlinedEnd?

/-- The blocks of a region follow each other. -/
theorem laid_blocks {one : BlockParser}
    (hone : ∀ ⦃i⦄, i < r.stop → Laid doc i (one r i).1 (one r i).2) (n i : Nat) :
    Laid doc i (r.blocks one n i).1 (r.blocks one n i).2 := by
  induction n generalizing i with
  | zero => exact .nil (Nat.le_refl i)
  | succ n ih =>
    have hskip : i ≤ r.skipBlank i := r.le_skipBlank i
    simp only [blocks]
    split
    · exact .nil hskip
    · next hgo =>
      have hi : r.skipBlank i < r.stop := by
        rcases Nat.lt_or_ge (r.skipBlank i) r.stop with h | h
        · exact h
        · simp [h] at hgo
      have hfirst := (hone hi).mono_left hskip
      generalize one r (r.skipBlank i) = out at hfirst ⊢
      obtain ⟨fs, j⟩ := out
      have hrest : ∀ k, j ≤ k →
          Laid doc i
            (if k < r.stop then (fs ++ (r.blocks one n k).1, (r.blocks one n k).2) else (fs, k)).1
            (if k < r.stop then (fs ++ (r.blocks one n k).1, (r.blocks one n k).2)
              else (fs, k)).2 := by
        intro k hk
        split
        · exact (hfirst.mono_right hk).append (ih k)
        · exact hfirst.mono_right hk
      -- One blank line after the block is passed over.
      split
      · exact hrest _ (Nat.le_succ _)
      · exact hrest _ (Nat.le_refl _)

/-- Regions are laid out however many containers may still be opened. -/
theorem lays_parse : ∀ levels, Lays doc (parse levels)
  | 0 => by
    intro r hr i
    rw [parse]
    exact laid_blocks (fun j hj => .nil (Nat.le_of_lt hj)) _ i
  | 1 => by
    intro r hr i
    rw [parse]
    exact laid_blocks (fun j hj => laid_block (lays_parse 0) (lays_parse 0) hr hj) _ i
  | levels + 2 => by
    intro r hr i
    rw [parse]
    exact laid_blocks
      (fun j hj => laid_block (lays_parse (levels + 1)) (lays_parse levels) hr hj) _ i

end Region

/-- The fences of a document stand in it one after the other, and are faithful to it. -/
theorem laid_fences (text : String) :
    ∃ j, Laid (rows (normalize text.toList)) 0 (fences text) j :=
  ⟨_, Region.lays_parse maxNesting (Region.follows_ofLines text) 0⟩

/-- The rows that are lines of the document are room enough for its fences. -/
theorem laid_fences_take (text : String) :
    ∃ j, Laid ((rows (normalize text.toList)).take (linesOf text).size) 0 (fences text) j := by
  have hfollows := Region.follows_ofLines text
  exact ⟨_, Region.lays_parse maxNesting ⟨hfollows.tracks.take, hfollows.stop_le⟩ 0⟩

/-- Every fence of a document is faithful to it. -/
theorem faithful_of_mem_fences {text : String} {f : Fence} (hf : f ∈ fences text) :
    f.Faithful (rows (normalize text.toList)) :=
  (laid_fences text).elim fun _ h => h.faithful hf

end FenceLint.Markdown
