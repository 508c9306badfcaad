import FenceLint.Proofs.Block.Extent

/-!
# Depth limits

A depth limit ends the search early, in the middle of a list of siblings.  The list that comes out
is nevertheless the list without a limit, less the blocks that are too deep: the blocks below a
block are deeper than it, so what the search skips is what a filter on the finished list removes.

`blocksOf_eq_filter` says this of two searches that differ in their number of levels, for every
tokenizer.  A limit is a number of levels, and having no limit is a number of levels that is large
enough.
-/

namespace FenceLint

/-! ## Levels of a search -/

/-- No block of a text is less deep than the text, however many levels are searched. -/
theorem le_depth_of_mem_blocksOf {tokenize : Tokenizer} {levels : Nat} {o : Origin} {text : String}
    {b : Block} (hb : b ∈ blocksOf tokenize levels o text) : o.depth ≤ b.depth := by
  induction levels generalizing o text with
  | zero => simp [blocksOf] at hb
  | succ levels ih =>
    obtain ⟨outer, houter, hb⟩ := exists_of_mem_blocksOf hb
    have hdepth := Origin.depth_of_mem_direct houter
    rcases hb with rfl | hb
    · omega
    · have hinside : outer.depth + 1 ≤ b.depth := ih hb
      omega

/-- Fewer levels give the blocks of these levels and leave out the deeper ones. -/
theorem blocksOf_eq_filter (tokenize : Tokenizer) {n k : Nat} (hnk : n ≤ k) (o : Origin)
    (text : String) :
    blocksOf tokenize n o text =
      (blocksOf tokenize k o text).filter fun b => b.depth < o.depth + n := by
  induction n generalizing k o text with
  | zero =>
    symm
    rw [show blocksOf tokenize 0 o text = [] from rfl, List.filter_eq_nil_iff]
    intro b hb
    have hle := le_depth_of_mem_blocksOf hb
    rw [decide_eq_true_eq]
    omega
  | succ n ih =>
    obtain ⟨k, rfl⟩ : ∃ j, k = j + 1 := ⟨k - 1, by omega⟩
    rw [blocksOf_succ, blocksOf_succ, List.filter_flatMap]
    apply List.flatMap_congr
    intro b hb
    have hdepth := Origin.depth_of_mem_direct hb
    -- The block itself stays, and below it one level of the limit is used up.
    have hbelow : b.below tokenize n =
        (b.below tokenize k).filter fun c => c.depth < o.depth + (n + 1 : Nat) := by
      rw [Block.below, Block.below]
      split
      · rfl
      · rw [ih (Nat.le_of_succ_le_succ hnk)]
        apply List.filter_congr
        intro c _
        rw [decide_eq_decide]
        show c.depth < b.depth + 1 + n ↔ _
        omega
    rw [List.filter_cons_of_pos (by rw [decide_eq_true_eq]; omega), ← hbelow]

/-- The blocks down to a depth are those of as many levels as there are from the text to there. -/
theorem blocksOf_levels_eq_filter (tokenize : Tokenizer) {k : Nat} {o : Origin} {m : Int}
    (bound : Nat) (hk : o.levels (some m) bound ≤ k) (text : String) :
    blocksOf tokenize (o.levels (some m) bound) o text =
      (blocksOf tokenize k o text).filter fun b => b.depth ≤ m := by
  rw [blocksOf_eq_filter tokenize hk]
  apply List.filter_congr
  intro b hb
  have hle := le_depth_of_mem_blocksOf hb
  rw [decide_eq_decide, Origin.levels]
  omega

/-- With a lower limit, fewer levels are searched. -/
theorem Origin.levels_mono (o : Origin) (bound : Nat) {m m' : Int} (h : m ≤ m') :
    o.levels (some m) bound ≤ o.levels (some m') bound := by
  show (m - o.depth + 1).toNat ≤ (m' - o.depth + 1).toNat
  omega

/-! ## Limits are filters -/

/-- A depth limit filters the blocks of the search without a limit, for every tokenizer with which
that search ends, and for the parser of documents; so a lower limit leaves some of the blocks of a
higher one, in their order. -/
theorem depth_limit_filters (o : Origin) (m : Int) :
    (∀ (tokenize : Tokenizer) (bound : Nat) (text : String), EndsWithin tokenize bound text →
      blocksOf tokenize (o.levels (some m) bound) o text =
          ((blocksOf tokenize (o.levels none bound) o text).filter fun b => b.depth ≤ m) ∧
        ∀ m', m ≤ m' →
          (blocksOf tokenize (o.levels (some m) bound) o text).Sublist
            (blocksOf tokenize (o.levels (some m') bound) o text)) ∧
      ∀ text : String,
        extract text o (some m) = ((extract text o).filter fun b => b.depth ≤ m) ∧
          ∀ m', m ≤ m' → (extract text o (some m)).Sublist (extract text o (some m')) := by
  have hsublist : ∀ (tokenize : Tokenizer) (bound : Nat) (text : String) (m' : Int), m ≤ m' →
      (blocksOf tokenize (o.levels (some m) bound) o text).Sublist
        (blocksOf tokenize (o.levels (some m') bound) o text) := by
    intro tokenize bound text m' hm
    rw [blocksOf_eq_filter tokenize (o.levels_mono bound hm)]
    apply List.filter_sublist
  refine ⟨?_, ?_⟩
  · intro tokenize bound text hends
    refine ⟨?_, hsublist tokenize bound text⟩
    -- Levels beyond the bound give no further blocks, so both searches are cut from a longer one.
    have hbound := hends.blocksOf_eq (Nat.le_max_left bound (o.levels (some m) bound)) o
    rw [show o.levels none bound = bound from rfl, ← hbound]
    exact blocksOf_levels_eq_filter tokenize bound (Nat.le_max_right _ _) text
  · intro text
    refine ⟨?_, hsublist markdownTokens (Markdown.linesOf text).size text⟩
    rw [← blocksOf_eq_of_lines_le
      (Nat.le_max_left (Markdown.linesOf text).size (o.levels (some m) _)) o]
    exact blocksOf_levels_eq_filter markdownTokens _ (Nat.le_max_right _ _) text

/-- Three levels below a text at depth 2, whose tokens are partly without lines: the limit 3 leaves
the first two levels, and a limit below the text leaves nothing. -/
theorem depth_limit_filters_three_levels :
    let tokenize : Tokenizer := fun text =>
      if text = "a" then [.fence "md" "b" (some 0), .fence "MD" "c" none]
      else if text = "b" then [.fence "markdown" "c" (some 1)]
      else if text = "c" then [.other, .fence "md" "d" (some 2)]
      else []
    let o : Origin := { depth := 2 }
    let all := blocksOf tokenize (o.levels none 4) o "a"
    EndsWithin tokenize 4 "a" ∧ all.map Block.depth = [2, 3, 4, 2, 3] ∧
      blocksOf tokenize (o.levels (some 3) 4) o "a" = (all.filter fun b => b.depth ≤ 3) ∧
      blocksOf tokenize (o.levels (some (-1)) 4) o "a" = (all.filter fun b => b.depth ≤ -1) ∧
      (blocksOf tokenize (o.levels (some (-1)) 4) o "a").Sublist
        (blocksOf tokenize (o.levels (some 3) 4) o "a") := by
  intro tokenize o all
  have hends : EndsWithin tokenize 4 "a" := by decide +kernel
  obtain ⟨hthree, -⟩ := (depth_limit_filters o 3).1 tokenize 4 "a" hends
  obtain ⟨hnone, hsublist⟩ := (depth_limit_filters o (-1)).1 tokenize 4 "a" hends
  exact ⟨hends, by decide +kernel, hthree, hnone, hsublist 3 (by decide)⟩

end FenceLint
