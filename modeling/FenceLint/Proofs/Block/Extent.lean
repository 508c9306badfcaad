import FenceLint.Proofs.Block.Forest
import FenceLint.Proofs.Block.Lines

/-!
# The extent of nested blocks

Extraction searches the content of a block again, and what it searches is not a part of what it
came from: the spaces of a tab may be written out in it, so that it can even be the longer text.
Its lines are fewer, though.  A fence takes its opening line, and what it holds are the lines below
(`lines_lt_of_mem_markdownTokens`).  So the number of lines bounds the levels of a search, and more
levels change nothing (`blocksOf_eq_of_lines_le`).

The lines of the text also bound the number of blocks.  `Ascends lo bs hi` says that the blocks `bs`
open one below the other, after the line `lo` and not after the line `hi`: a block stands on its
opening line, the blocks in it on lines of its content, and the next one behind its closing line.

Main statement: `extract_bounded_by_lines`.
-/

namespace FenceLint

open Markdown
open Text (rows)

/-! ## Fewer lines at every level -/

/-- The document has no more lines than its text has rows. -/
theorem Markdown.size_linesOf_le (text : String) :
    (linesOf text).size ≤ (rows (normalize text.toList)).length :=
  (Region.follows_ofLines text).tracks.size_le

/-- The content of a fence has no more lines than stand between its fences. -/
theorem Markdown.lines_content_le {text : String} {f : Fence} (hf : f ∈ fences text) :
    f.start + 1 + (linesOf f.content).size ≤ f.stop := by
  have hfaithful := faithful_of_mem_fences hf
  have hlines := size_linesOf_le f.content
  rw [hfaithful.normalize_content] at hlines
  have hrows := hfaithful.rows_content_le
  omega

/-- What a fence holds has fewer lines than the text that the fence stands in. -/
theorem lines_lt_of_mem_markdownTokens {text info content : String} {start : Option Int}
    (h : .fence info content start ∈ markdownTokens text) :
    (linesOf content).size < (linesOf text).size := by
  rw [markdownTokens, List.mem_map] at h
  obtain ⟨f, hf, heq⟩ := h
  obtain ⟨-, rfl, -⟩ := Token.fence.inj heq
  obtain ⟨j, hlaid⟩ := laid_fences_take text
  have hstop := (hlaid.faithful hf).stop_le
  rw [List.length_take] at hstop
  have hcontent := lines_content_le hf
  omega

/-- The content of a direct block has fewer lines than the text. -/
theorem Origin.lines_lt_of_mem_direct {o : Origin} {text : String} {b : Block}
    (hb : b ∈ o.direct (markdownTokens text)) :
    (linesOf b.content).size < (linesOf text).size := by
  obtain ⟨info, content, start, htoken, -, rfl⟩ := exists_of_mem_direct hb
  exact lines_lt_of_mem_markdownTokens htoken

/-- A text that is searched in turn has fewer lines. -/
theorem lines_lt_of_mem_inner {text inner : String}
    (h : inner ∈ (markdownTokens text).filterMap Token.inner?) :
    (linesOf inner).size < (linesOf text).size := by
  rw [List.mem_filterMap] at h
  obtain ⟨token, htoken, hinner⟩ := h
  cases token with
  | fence info content start =>
    rw [Token.inner?] at hinner
    split at hinner
    · obtain rfl : content = inner := by simpa using hinner
      exact lines_lt_of_mem_markdownTokens htoken
    · simp at hinner
  | other => simp [Token.inner?] at hinner

/-! ## Searches end -/

/-- A search ends within one level more than the text has lines. -/
theorem endsWithin_of_lines_le {n : Nat} {text : String} (h : (linesOf text).size ≤ n) :
    EndsWithin markdownTokens (n + 1) text := by
  induction n generalizing text with
  | zero =>
    intro inner hinner
    have := lines_lt_of_mem_inner hinner
    omega
  | succ n ih =>
    intro inner hinner
    have := lines_lt_of_mem_inner hinner
    exact ih (by omega)

/-- One level more than there are lines gives no further blocks. -/
theorem blocksOf_succ_of_lines_le {n : Nat} {text : String} (h : (linesOf text).size ≤ n)
    (o : Origin) : blocksOf markdownTokens (n + 1) o text = blocksOf markdownTokens n o text := by
  induction n generalizing o text with
  | zero =>
    -- A text without lines has no fences.
    rw [blocksOf_succ, show blocksOf markdownTokens 0 o text = [] from rfl,
      List.flatMap_eq_nil_iff]
    intro b hb
    have := Origin.lines_lt_of_mem_direct hb
    omega
  | succ n ih =>
    rw [blocksOf_succ, blocksOf_succ]
    refine List.flatMap_congr ?_
    intro b hb
    have hlt := Origin.lines_lt_of_mem_direct hb
    rw [Block.below, Block.below, ih (by omega)]

/-- As many levels as the text has lines give all of its blocks. -/
theorem blocksOf_eq_of_lines_le {n : Nat} {text : String} (h : (linesOf text).size ≤ n)
    (o : Origin) : blocksOf markdownTokens n o text = extract text o := by
  induction h with
  | refl => rfl
  | step hn ih => rw [blocksOf_succ_of_lines_le hn, ih]

/-- What is extracted from a text without a limit: its direct blocks, each followed by what is
extracted from its content. -/
theorem extract_eq_flatMap (text : String) (o : Origin) :
    extract text o = (o.direct (markdownTokens text)).flatMap fun b =>
      b :: if Text.isBlankText b.content then [] else extract b.content (.inside b) := by
  rw [← blocksOf_eq_of_lines_le (Nat.le_succ _), blocksOf_succ]
  refine List.flatMap_congr ?_
  intro b hb
  have hlt := Origin.lines_lt_of_mem_direct hb
  rw [Block.below, blocksOf_eq_of_lines_le (Nat.le_of_lt hlt)]

/-! ## Blocks one below the other -/

/-- The blocks open one below the other, after the line `lo` and not after the line `hi`. -/
inductive Ascends : Int → List Block → Int → Prop where
  | nil {lo hi : Int} (h : lo ≤ hi) : Ascends lo [] hi
  | cons {lo hi : Int} {b : Block} {bs : List Block} (hb : lo < b.line)
      (hbs : Ascends b.line bs hi) : Ascends lo (b :: bs) hi

namespace Ascends

variable {lo mid hi : Int} {bs cs : List Block}

/-- More room before the blocks does no harm. -/
theorem mono_left (h : Ascends mid bs hi) (hle : lo ≤ mid) : Ascends lo bs hi := by
  cases h with
  | nil h => exact nil (by omega)
  | cons hb hbs => exact cons (by omega) hbs

/-- More room after the blocks does no harm. -/
theorem mono_right (h : Ascends lo bs mid) (hle : mid ≤ hi) : Ascends lo bs hi := by
  induction h with
  | nil h => exact nil (by omega)
  | cons hb _ ih => exact cons hb (ih hle)

/-- Blocks that follow each other. -/
theorem append (h : Ascends lo bs mid) (h' : Ascends mid cs hi) : Ascends lo (bs ++ cs) hi := by
  induction h with
  | nil hle => exact h'.mono_left hle
  | cons hb _ ih => exact cons hb (ih h')

/-- No two blocks open on one line, so there are no more blocks than lines. -/
theorem length_le (h : Ascends lo bs hi) : lo + bs.length ≤ hi := by
  induction h with
  | nil hle => simpa using hle
  | cons hb _ ih =>
    rw [List.length_cons]
    omega

end Ascends

/-- Blocks of fences that follow each other open one below the other, when this holds of the blocks
below each of them. -/
theorem ascends_of_laid {doc : List (List Char)} {i j levels : Nat} {fs : List Fence}
    (hlaid : Laid doc i fs j) (hi : i ≤ doc.length)
    (hlines : ∀ f ∈ fs, f.start + 1 + (linesOf f.content).size ≤ f.stop)
    (hinner : ∀ (o : Origin) (text : String),
      Ascends o.base (blocksOf markdownTokens levels o text) (o.base + (linesOf text).size))
    (o : Origin) :
    Ascends (o.base + i)
      ((o.direct (fs.map fun f => .fence f.info f.content (some f.start))).flatMap
        fun b => b :: b.below markdownTokens levels)
      (o.base + doc.length) := by
  induction hlaid with
  | nil => exact .nil (by omega)
  | @cons i j f fs hf hstart _ ih =>
    have hrest := ih hf.stop_le fun g hg => hlines g (List.mem_cons_of_mem f hg)
    have hlt := hf.start_lt_stop
    rw [Origin.direct, List.map_cons, List.filterMap_cons, Origin.blockOf?]
    cases hinfo : isMarkdownInfo f.info with
    | false => exact hrest.mono_left (by omega)
    | true =>
      rw [if_pos rfl, List.flatMap_cons, List.cons_append]
      have hcontent := hlines f List.mem_cons_self
      refine .cons (show o.base + i < o.base + f.start + 1 by omega) (.append ?_ hrest)
      -- The blocks in the content end before the fence does.
      rw [Block.below]
      split
      · exact .nil (show o.base + f.start + 1 ≤ o.base + f.stop by omega)
      · have hbelow := hinner (.inside (o.block f.info f.content (some f.start))) f.content
        exact hbelow.mono_right
          (show o.base + f.start + 1 + (linesOf f.content).size ≤ o.base + f.stop by omega)

/-- The blocks extracted from a text open one below the other, on lines of the text. -/
theorem ascends_blocksOf (levels : Nat) (o : Origin) (text : String) :
    Ascends o.base (blocksOf markdownTokens levels o text) (o.base + (linesOf text).size) := by
  induction levels generalizing o text with
  | zero => exact .nil (by omega)
  | succ levels ih =>
    obtain ⟨j, hlaid⟩ := laid_fences_take text
    have hascends := ascends_of_laid hlaid (Nat.zero_le _) (fun f => lines_content_le) ih o
    have hlength : ((rows (normalize text.toList)).take (linesOf text).size).length =
        (linesOf text).size := by
      rw [List.length_take, Nat.min_eq_left (size_linesOf_le text)]
    rw [hlength, Int.natCast_zero, Int.add_zero] at hascends
    rw [blocksOf_succ]
    exact hascends

/-! ## The bounds -/

/-- The lines of a text bound what is extracted from it.  Without a limit the search ends, within
one level more than there are lines, and gives each direct block followed by what its content gives.
Every block is less than that many levels below the first ones, there are no more blocks than lines,
and a limit that leaves room for as many levels changes nothing.  The lines are those of the
document, of which there are no more than rows of its text. -/
theorem extract_bounded_by_lines (text : String) (o : Origin) :
    (linesOf text).size ≤ (rows (normalize text.toList)).length ∧
      EndsWithin markdownTokens ((linesOf text).size + 1) text ∧
      extract text o = ((o.direct (markdownTokens text)).flatMap fun b =>
        b :: if Text.isBlankText b.content then [] else extract b.content (.inside b)) ∧
      (∀ b ∈ extract text o, b.depth < o.depth + (linesOf text).size) ∧
      (extract text o).length ≤ (linesOf text).size ∧
      ∀ m, o.depth + (linesOf text).size ≤ m → extract text o (some m) = extract text o := by
  refine ⟨size_linesOf_le text, endsWithin_of_lines_le (Nat.le_refl _), extract_eq_flatMap text o,
    ?_, ?_, ?_⟩
  · intro b hb
    exact depth_lt_of_mem_blocksOf hb
  · have hlength : o.base + (extract text o).length ≤ o.base + (linesOf text).size :=
      (ascends_blocksOf _ o text).length_le
    omega
  · intro m hm
    have hlevels : (linesOf text).size ≤ o.levels (some m) (linesOf text).size := by
      rw [Origin.levels]
      omega
    exact blocksOf_eq_of_lines_le hlevels o

/-- The bounds are met by fences that never close, each of which opens in the content of the one
before. -/
theorem extract_bounded_by_unclosed_fences :
    let text := "```md\n```md\n```md\n"
    let o : Origin := { file := "a.md" }
    (linesOf text).size = 3 ∧ (extract text o).map Block.depth = [0, 1, 2] ∧
      extract text o (some 3) = extract text o := by
  intro text o
  have hsize : (linesOf text).size = 3 := by decide +kernel
  refine ⟨hsize, by decide +kernel, ?_⟩
  obtain ⟨-, -, -, -, -, hlimit⟩ := extract_bounded_by_lines text o
  exact hlimit 3 (by rw [hsize]; decide)

end FenceLint
