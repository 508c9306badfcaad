import FenceLint.Proofs.Block.Direct
import FenceLint.Proofs.Markdown.Fences
import FenceLint.Report

/-!
# Lines of nested blocks

The content of a block is read again as a document of its own, and the blocks in it count their
lines from where the content starts.  `Placed doc base b` says that this counting is right: row `n`
of the content of `b` shows the row `b.line + n` of the document.

A fence gives a placed block (`Fence.Faithful.placed`), and a block placed in the content of a
placed block is placed in the document around both (`Placed.inside`).  So the number of levels does
not matter, and findings in a block at any depth are reported on the line that they are about
(`fileLine_shows`).
-/

namespace FenceLint

open Text Markdown

/-- Every row of the content of `b` shows the row of `doc` on which it is reported, when the rows of
`doc` are numbered from `base + 1`. -/
def Block.Placed (doc : List (List Char)) (base : Int) (b : Block) : Prop :=
  ∃ above : Nat, b.line = base + above + 1 ∧
    ∀ n row, (rows b.content.toList)[n]? = some row →
      ∃ l, doc[above + 1 + n]? = some l ∧ Shows l row

/-- A faithful fence is placed in its document as a block. -/
theorem Markdown.Fence.Faithful.placed {doc : List (List Char)} {f : Fence} (h : f.Faithful doc)
    (o : Origin) : (o.block f.info f.content (some f.start)).Placed doc o.base := by
  refine ⟨f.start, rfl, ?_⟩
  intro n row hrow
  obtain ⟨hlt, hshows⟩ := h.row n row hrow
  have hdoc : f.start + 1 + n < doc.length := Nat.lt_of_lt_of_le hlt h.stop_le
  refine ⟨doc[f.start + 1 + n], List.getElem?_eq_getElem hdoc, ?_⟩
  rwa [List.getD_eq_getElem?_getD, List.getElem?_eq_getElem hdoc] at hshows

/-- A block placed in the content of a placed block is placed in the document of that block. -/
theorem Block.Placed.inside {doc : List (List Char)} {base : Int} {outer inner : Block}
    (houter : outer.Placed doc base)
    (hinner : inner.Placed (rows outer.content.toList) outer.line) : inner.Placed doc base := by
  obtain ⟨above, hline, hrows⟩ := houter
  obtain ⟨above', hline', hrows'⟩ := hinner
  refine ⟨above + 1 + above', by rw [hline', hline]; omega, ?_⟩
  intro n row hrow
  obtain ⟨m, hm, hshows'⟩ := hrows' n row hrow
  obtain ⟨l, hl, hshows⟩ := hrows _ m hm
  exact ⟨l, by rwa [show above + 1 + above' + 1 + n = above + 1 + (above' + 1 + n) by omega],
    hshows.trans hshows'⟩

/-- The content of a fence is normalized already, because the document is. -/
theorem Markdown.Fence.Faithful.normalize_content {cs : List Char} {f : Fence}
    (h : f.Faithful (rows (normalize cs))) : normalize f.content.toList = f.content.toList := by
  have hmem : ∀ c ∈ f.content.toList, c = '\n' ∨ c = ' ' ∨ c ∈ normalize cs := by
    intro c hc
    by_cases hne : c = '\n'
    · exact Or.inl hne
    · obtain ⟨row, hrow, hcrow⟩ := exists_mem_rows hc hne
      obtain ⟨j, hj⟩ := List.mem_iff_getElem?.mp hrow
      rcases (h.row j row hj).2.mem hcrow with hspace | hdoc
      · exact Or.inr (Or.inl hspace)
      · refine Or.inr (Or.inr ?_)
        rw [List.getD_eq_getElem?_getD] at hdoc
        cases hl : (rows (normalize cs))[f.start + 1 + j]? with
        | none => simp [hl] at hdoc
        | some l =>
          rw [hl] at hdoc
          exact (mem_of_mem_rows (List.mem_of_getElem? hl) hdoc).1
  refine normalize_eq_self (fun hr => ?_) (fun h0 => ?_)
  · rcases hmem _ hr with h' | h' | h'
    · exact absurd h' (by decide)
    · exact absurd h' (by decide)
    · exact (not_mem_normalize cs).1 h'
  · rcases hmem _ h0 with h' | h' | h'
    · exact absurd h' (by decide)
    · exact absurd h' (by decide)
    · exact (not_mem_normalize cs).2 h'

/-- Blocks are placed in the document that they are extracted from, at every level. -/
theorem placed_of_mem_blocksOf (levels : Nat) {o : Origin} {text : String} {b : Block}
    (hb : b ∈ blocksOf markdownTokens levels o text) :
    b.Placed (rows (normalize text.toList)) o.base := by
  induction levels generalizing o text with
  | zero => simp [blocksOf] at hb
  | succ levels ih =>
    obtain ⟨outer, houter, hb⟩ := exists_of_mem_blocksOf hb
    obtain ⟨info, content, start, htoken, -, rfl⟩ := Origin.exists_of_mem_direct houter
    rw [markdownTokens, List.mem_map] at htoken
    obtain ⟨f, hf, heq⟩ := htoken
    obtain ⟨rfl, rfl, rfl⟩ := Token.fence.inj heq
    have hfaithful := faithful_of_mem_fences hf
    have hplaced := hfaithful.placed o
    rcases hb with rfl | hb
    · exact hplaced
    · have hinner := ih hb
      rw [Origin.block, hfaithful.normalize_content] at hinner
      exact hplaced.inside hinner

/-- A finding in a block at any depth is reported on the line of the file that it is about: every
row of the content that a finding may be on shows the row of the file on the finding's line. -/
theorem fileLine_shows (text file : String) (limit : Option Int) (b : Block)
    (hb : b ∈ extract text { file } limit) (f : Finding) (hpos : 1 ≤ f.line)
    (hle : f.line ≤ (rows b.content.toList).length) :
    ∃ l row, rowAt? (normalize text.toList) (b.fileLine f) = some l ∧
      rowAt? b.content.toList f.line = some row ∧ Shows l row := by
  obtain ⟨above, hline, hrows⟩ := placed_of_mem_blocksOf _ hb
  obtain ⟨n, hn⟩ : ∃ n : Nat, f.line = n + 1 := ⟨(f.line - 1).toNat, by omega⟩
  have hlt : n < (rows b.content.toList).length := by omega
  obtain ⟨l, hl, hshows⟩ := hrows n _ (List.getElem?_eq_getElem hlt)
  refine ⟨l, _, ?_, ?_, hshows⟩
  · have hfile : b.fileLine f = (above + 1 + n : Nat) + 1 := by
      rw [Block.fileLine, hline, hn]
      push_cast
      omega
    rw [hfile, rowAt?_add_one, hl]
  · rw [hn, rowAt?_add_one, List.getElem?_eq_getElem hlt]

/-- A block in a list item in a quoted block: its first row, which a tab indents, is on line 5. -/
theorem fileLine_shows_in_quoted_list :
    let text := "> ````md\n> - a\n>\n>   ```md\n>   \t# b\n>   ```\n> ````\n"
    let b : Block := ⟨"\t# b\n", 4, 1, "line 1 > block at line 4", "md", "a.md"⟩
    let f : Finding := ⟨["MD010"], "Hard tabs", 1, some 1, none⟩
    b ∈ extract text { file := "a.md" } ∧ b.fileLine f = 5 ∧
      ∃ l row, rowAt? (normalize text.toList) (b.fileLine f) = some l ∧
        rowAt? b.content.toList f.line = some row ∧ Shows l row := by
  intro text b f
  have hb : b ∈ extract text { file := "a.md" } := by decide +kernel
  exact ⟨hb, rfl, fileLine_shows text "a.md" none b hb f (by decide) (by decide +kernel)⟩

end FenceLint
