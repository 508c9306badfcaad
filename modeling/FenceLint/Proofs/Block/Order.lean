import FenceLint.Proofs.Block.Extent
import FenceLint.Proofs.Text.Numeral

/-!
# The order of nested blocks

Extraction lists blocks in pre-order, and in this order they stand on ever later lines of the file,
whatever the depth at which a block was found and wherever the search started.  So the line of a
block names it among all blocks of its file, and so does its trail, which ends in the line
(`Block.Signed`).

What lies in a block is what its content gives under the same limit (`Block.inner`), and it follows
the block in the list: `forest_extract`.  Together with the order of the lines this puts everything
in a block after its opening line and before whatever comes behind it, the next block beside it
first of all.

Main statement: `extract_in_line_order`.
-/

namespace FenceLint

open Markdown
open Text (rows)

/-! ## What lies in a block -/

/-- The blocks in a block: what its content gives under the limit, unless it is blank. -/
def Block.inner (limit : Option Int) (b : Block) : List Block :=
  if Text.isBlankText b.content then [] else extract b.content (.inside b) limit

/-- A limit that allows no block at the depth of the text leaves none. -/
theorem extract_of_limit_lt {text : String} {o : Origin} {m : Int} (h : m < o.depth) :
    extract text o (some m) = [] := by
  have hlevels : o.levels (some m) (linesOf text).size = 0 := by
    rw [Origin.levels]
    omega
  rw [extract, hlevels]
  rfl

/-- Under a limit that allows blocks at the depth of the text, extraction gives the direct blocks,
each followed by the blocks in it. -/
theorem extract_eq_flatMap_inner {text : String} {o : Origin} {limit : Option Int}
    (h : ∀ m, limit = some m → o.depth ≤ m) :
    extract text o limit =
      (o.direct (markdownTokens text)).flatMap fun b => b :: b.inner limit := by
  cases limit with
  | none => exact extract_eq_flatMap text o
  | some m =>
    have hle := h m rfl
    have hlevels : o.levels (some m) (linesOf text).size = (m - o.depth).toNat + 1 := by
      rw [Origin.levels]
      omega
    rw [extract, hlevels, blocksOf_succ]
    refine List.flatMap_congr ?_
    intro b hb
    have hdepth := Origin.depth_of_mem_direct hb
    have hinside : (m - o.depth).toNat =
        (Origin.inside b).levels (some m) (linesOf b.content).size := by
      show _ = (m - (b.depth + 1) + 1).toNat
      omega
    rw [Block.below, Block.inner, hinside]
    rfl

/-- The extracted blocks are a forest in pre-order, where the blocks in a block stand below it. -/
theorem forest_extract (limit : Option Int) (text : String) (o : Origin) :
    Forest (Block.inner limit) o.depth (extract text o limit) := by
  -- The content of a direct block has fewer lines than the text.
  induction hn : (linesOf text).size using Nat.strongRecOn generalizing text o with
  | ind n ih =>
    by_cases hlimit : ∀ m, limit = some m → o.depth ≤ m
    · rw [extract_eq_flatMap_inner hlimit]
      refine Forest.flatMap fun b hb => ?_
      have hdepth := Origin.depth_of_mem_direct hb
      have hlt := Origin.lines_lt_of_mem_direct hb
      refine ⟨hdepth, ?_⟩
      rw [Block.inner]
      split
      · exact .nil
      · rw [← hdepth]
        exact ih _ (hn ▸ hlt) b.content (.inside b) rfl
    · obtain ⟨m, hm⟩ := Classical.not_forall.mp hlimit
      obtain ⟨rfl, hlt⟩ := Classical.not_imp.mp hm
      rw [extract_of_limit_lt (Int.not_le.mp hlt)]
      exact .nil

/-! ## Lines in order -/

namespace Ascends

variable {lo hi : Int} {bs : List Block}

/-- The blocks open after the first bound and not after the second. -/
theorem bounds (h : Ascends lo bs hi) {b : Block} (hb : b ∈ bs) : lo < b.line ∧ b.line ≤ hi := by
  induction h with
  | nil => simp at hb
  | cons hlt hbs ih =>
    rcases List.mem_cons.mp hb with rfl | hb
    · have := hbs.length_le
      omega
    · have := ih hb
      omega

/-- The lines of the blocks increase. -/
theorem pairwise_line (h : Ascends lo bs hi) : bs.Pairwise fun b c => b.line < c.line := by
  induction h with
  | nil => exact .nil
  | cons _ hbs ih => exact .cons (fun c hc => (hbs.bounds hc).1) ih

end Ascends

/-! ## Trails tell lines -/

/-- The trail of the block ends in its line, with a space before. -/
def Block.Signed (b : Block) : Prop :=
  ∃ before, b.trail.toList = before ++ ' ' :: (toString b.line).toList

/-- The blocks of a text are signed. -/
theorem Origin.signed_block (o : Origin) (info content : String) (start : Option Int) :
    (o.block info content start).Signed := by
  unfold Block.Signed Origin.block
  dsimp only
  split
  · exact ⟨"line".toList, by rw [String.toList_append]; rfl⟩
  · refine ⟨o.trail.toList ++ " > block at line".toList, ?_⟩
    rw [String.toList_append, String.toList_append, List.append_assoc, List.append_assoc]
    rfl

/-- Extracted blocks are signed, at every level. -/
theorem signed_of_mem_blocksOf {tokenize : Tokenizer} {levels : Nat} {o : Origin} {text : String}
    {b : Block} (hb : b ∈ blocksOf tokenize levels o text) : b.Signed := by
  induction levels generalizing o text with
  | zero => simp [blocksOf] at hb
  | succ levels ih =>
    obtain ⟨outer, houter, rfl | hb⟩ := exists_of_mem_blocksOf hb
    · obtain ⟨info, content, start, -, -, rfl⟩ := Origin.exists_of_mem_direct houter
      exact o.signed_block info content start
    · exact ih hb

/-- What follows the last space of a text is fixed by the text. -/
theorem eq_of_append_space_eq {before before' word word' : List Char} (hword : ' ' ∉ word)
    (hword' : ' ' ∉ word') (h : before ++ ' ' :: word = before' ++ ' ' :: word') :
    word = word' := by
  have hlast : ∀ (before : List Char) {word : List Char}, ' ' ∉ word →
      (before ++ ' ' :: word).reverse.takeWhile (· != ' ') = word.reverse := by
    intro before word hword
    have hall : ∀ c ∈ word.reverse, (c != ' ') = true := by
      intro c hc
      rw [List.mem_reverse] at hc
      exact bne_iff_ne.mpr fun heq => hword (heq ▸ hc)
    rw [List.reverse_append, List.reverse_cons, List.append_assoc,
      List.takeWhile_append_of_pos hall]
    simp
  have hrev : word.reverse = word'.reverse := by
    rw [← hlast before hword, h, hlast before' hword']
  exact List.reverse_injective hrev

/-- Signed blocks with one trail open on one line. -/
theorem Block.Signed.line_eq {b c : Block} (hb : b.Signed) (hc : c.Signed)
    (h : b.trail = c.trail) : b.line = c.line := by
  obtain ⟨before, hbefore⟩ := hb
  obtain ⟨before', hbefore'⟩ := hc
  rw [h, hbefore'] at hbefore
  have hword := eq_of_append_space_eq (Text.space_not_mem_toString c.line)
    (Text.space_not_mem_toString b.line) hbefore
  exact (Text.eq_of_toString_eq hword).symm

/-! ## The blocks of a text in the order of their lines -/

/-- The blocks extracted from a text stand on lines of it, in order: one below the other, with what
lies in a block between its opening line and whatever comes behind it. -/
structure InLineOrder (text : String) (o : Origin) (limit : Option Int) (bs : List Block) :
    Prop where
  /-- The lines increase. -/
  increasing : bs.Pairwise fun b c => b.line < c.line
  /-- The lines are lines of the text, which has no more lines than rows. -/
  within : ∀ b ∈ bs, o.base < b.line ∧ b.line ≤ o.base + (linesOf text).size ∧
    b.line ≤ o.base + (rows (normalize text.toList)).length
  /-- No two blocks have the same line. -/
  nodup_line : (bs.map Block.line).Nodup
  /-- No two blocks have the same trail. -/
  nodup_trail : (bs.map Block.trail).Nodup
  /-- The blocks in a block follow it.  What comes next lies in none of them: it is the next block
  beside it, or one less deep.  The blocks in the block stand on lines of its content, after the
  line of the block and before the lines of all that comes behind. -/
  nested : ∀ (before : List Block) (b : Block) (after : List Block), bs = before ++ b :: after →
    ∃ behind, after = b.inner limit ++ behind ∧
      (∀ c ∈ b.inner limit, b.depth < c.depth) ∧
      (∀ next, behind.head? = some next → next.depth ≤ b.depth) ∧
      ∀ c ∈ b.inner limit, b.line < c.line ∧ c.line ≤ b.line + (linesOf b.content).size ∧
        ∀ next ∈ behind, c.line < next.line

/-- The blocks in a block stand on lines of its content. -/
theorem Block.bounds_of_mem_inner {b c : Block} {limit : Option Int} (hc : c ∈ b.inner limit) :
    b.line < c.line ∧ c.line ≤ b.line + (linesOf b.content).size := by
  rw [Block.inner] at hc
  split at hc
  · simp at hc
  · exact (ascends_blocksOf _ (.inside b) b.content).bounds hc

/-- Extraction lists the blocks of a text in the order of their lines, for every origin and every
limit. -/
theorem extract_in_line_order (text : String) (o : Origin) (limit : Option Int) :
    InLineOrder text o limit (extract text o limit) := by
  have hascends := ascends_blocksOf (o.levels limit (linesOf text).size) o text
  have hincreasing : (extract text o limit).Pairwise fun b c => b.line < c.line :=
    hascends.pairwise_line
  have hforest := forest_extract limit text o
  refine ⟨hincreasing, ?_, ?_, ?_, ?_⟩
  · intro b hb
    have hbounds := hascends.bounds hb
    have hrows := size_linesOf_le text
    exact ⟨hbounds.1, hbounds.2, by omega⟩
  · rw [List.Nodup, List.pairwise_map]
    exact hincreasing.imp fun hlt => Int.ne_of_lt hlt
  · rw [List.Nodup, List.pairwise_map]
    refine hincreasing.imp_of_mem ?_
    intro b c hb hc hlt htrail
    have hline := (signed_of_mem_blocksOf hb).line_eq (signed_of_mem_blocksOf hc) htrail
    omega
  · intro before b after hbs
    have hrun := hforest.takeWhile_eq hbs
    have hafter : after = b.inner limit ++ after.dropWhile fun c => b.depth < c.depth := by
      rw [← hrun, List.takeWhile_append_dropWhile]
    have hmem : b ∈ extract text o limit := by simp [hbs]
    refine ⟨_, hafter, ?_, ?_, ?_⟩
    · intro c hc
      have hdepth := (hforest.sub_of_mem hmem).le_depth hc
      omega
    · intro next hnext
      have hstop := List.head?_dropWhile_not (fun c : Block => decide (b.depth < c.depth)) after
      rw [hnext] at hstop
      simpa using hstop
    · intro c hc
      obtain ⟨hlo, hhi⟩ := Block.bounds_of_mem_inner hc
      refine ⟨hlo, hhi, ?_⟩
      intro next hnext
      rw [hbs, hafter] at hincreasing
      have hbehind := (List.pairwise_append.mp hincreasing).2.1.of_cons
      exact (List.pairwise_append.mp hbehind).2.2 c hc next hnext

end FenceLint
