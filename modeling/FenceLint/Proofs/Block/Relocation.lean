import FenceLint.Proofs.Block.Order
import Mathlib.Data.List.Forall2

/-!
# Blocks of a text in place

A text that stands inside a block can be searched where it stands, or as a document of its own.  The
two searches find the same blocks: the place of the text only relabels them.  Lines and depths are
counted on from the line and the depth of the text, and trails continue its trail.

Two searches of one text go down side by side (`Alongside`): as long as their origins are related,
the blocks that they find are related one by one, and so are the origins of what these hold.  One
such relation is about lines and depths and does not look at trails, which may differ in any way;
the other one is about trails, for searches that count lines alike.

Main statement: `extract_relocated`.
-/

namespace FenceLint

/-! ## Two searches of one text -/

/-- Origins related by `R` make blocks that are related by `S` of every fence, and what related
blocks hold is the same text, with origins that are related again. -/
structure Alongside (R : Origin → Origin → Prop) (S : Block → Block → Prop) : Prop where
  block : ∀ {o o' : Origin}, R o o' → ∀ (info content : String) (start : Option Int),
    S (o.block info content start) (o'.block info content start)
  content : ∀ {b b' : Block}, S b b' → b.content = b'.content
  inside : ∀ {b b' : Block}, S b b' → R (.inside b) (.inside b')

namespace Alongside

variable {R : Origin → Origin → Prop} {S : Block → Block → Prop} {o o' : Origin}

/-- A token is a block for both searches or for none, and the two blocks are related. -/
theorem rel_blockOf? (h : Alongside R S) (ho : R o o') (token : Token) :
    Option.Rel S (o.blockOf? token) (o'.blockOf? token) := by
  cases token with
  | other => exact .none
  | fence info content start =>
    rw [Origin.blockOf?, Origin.blockOf?]
    split
    · exact .some (h.block ho info content start)
    · exact .none

/-- The direct blocks of two searches are related one by one. -/
theorem forall₂_direct (h : Alongside R S) (ho : R o o') (tokens : List Token) :
    List.Forall₂ S (o.direct tokens) (o'.direct tokens) := by
  refine List.rel_filterMap (R := Eq) ?_ (List.forall₂_refl tokens)
  rintro token _ rfl
  exact h.rel_blockOf? ho token

/-- The blocks of two searches are related one by one, at every level. -/
theorem forall₂_blocksOf (h : Alongside R S) (ho : R o o') (tokenize : Tokenizer) (levels : Nat)
    (text : String) :
    List.Forall₂ S (blocksOf tokenize levels o text) (blocksOf tokenize levels o' text) := by
  induction levels generalizing o o' text with
  | zero => exact .nil
  | succ levels ih =>
    rw [blocksOf_succ, blocksOf_succ]
    refine List.rel_flatMap (h.forall₂_direct ho (tokenize text)) ?_
    intro b b' hb
    refine .cons hb ?_
    rw [Block.below, Block.below, h.content hb]
    split
    · exact .nil
    · exact ih (h.inside hb) b'.content

end Alongside

/-! ## Lines and depths -/

/-- The second origin is in the same file, so many lines and levels further on. -/
structure Origin.Shifted (lines levels : Int) (o o' : Origin) : Prop where
  file : o'.file = o.file
  base : o'.base = o.base + lines
  depth : o'.depth = o.depth + levels

/-- The second block is the first one, so many lines and levels further on. -/
structure Block.Shifted (lines levels : Int) (b b' : Block) : Prop where
  content : b'.content = b.content
  info : b'.info = b.info
  file : b'.file = b.file
  line : b'.line = b.line + lines
  depth : b'.depth = b.depth + levels

/-- A search that starts further on finds everything further on. -/
theorem alongside_shifted (lines levels : Int) :
    Alongside (Origin.Shifted lines levels) (Block.Shifted lines levels) where
  block := by
    intro o o' ho info content start
    refine ⟨rfl, rfl, ho.file, ?_, ho.depth⟩
    cases start with
    | none => exact ho.base
    | some s =>
      show o'.base + s + 1 = o.base + s + 1 + lines
      have hbase := ho.base
      omega
  content := fun hb => hb.content.symm
  inside := by
    intro b b' hb
    refine ⟨hb.file, hb.line, ?_⟩
    show b'.depth + 1 = b.depth + 1 + levels
    have hdepth := hb.depth
    omega

/-! ## Trails -/

/-- The trail of a block in a document that stands in a block with the trail `outer`. -/
def joinTrail (outer trail : String) : String := outer ++ " > block at " ++ trail

theorem joinTrail_ne_empty (outer trail : String) : joinTrail outer trail ≠ "" := by
  rw [joinTrail, Ne, String.append_eq_empty_iff, String.append_eq_empty_iff]
  rintro ⟨⟨-, h⟩, -⟩
  exact absurd h (by decide)

/-- The origins count lines alike, and the trail of the second one leads through `outer`. -/
structure Origin.Through (outer : String) (o o' : Origin) : Prop where
  base : o'.base = o.base
  trail : o'.trail = if o.trail = "" then outer else joinTrail outer o.trail

/-- The blocks hold one text and open on one line, and the trail of the second one leads through
`outer`. -/
structure Block.Through (outer : String) (b b' : Block) : Prop where
  content : b'.content = b.content
  line : b'.line = b.line
  ne_empty : b.trail ≠ ""
  trail : b'.trail = joinTrail outer b.trail

/-- The trail of a block names its line at least. -/
theorem Block.Signed.trail_ne_empty {b : Block} (hb : b.Signed) : b.trail ≠ "" := by
  obtain ⟨before, hbefore⟩ := hb
  intro hempty
  simp [hempty] at hbefore

/-- The trail of a block, by its line. -/
theorem Origin.trail_block (o : Origin) (info content : String) (start : Option Int) :
    (o.block info content start).trail =
      if o.trail = "" then "line " ++ toString (o.block info content start).line
      else joinTrail o.trail ("line " ++ toString (o.block info content start).line) := by
  simp only [Origin.block, String.isEmpty_iff, joinTrail]
  split
  · rfl
  · rw [← String.append_assoc]
    congr 1
    rw [String.append_assoc]
    rfl

/-- A search below a trail puts it in front of all trails. -/
theorem alongside_through {outer : String} (houter : outer ≠ "") :
    Alongside (Origin.Through outer) (Block.Through outer) where
  block := by
    intro o o' ho info content start
    have hline : (o'.block info content start).line = (o.block info content start).line := by
      simp only [Origin.block, ho.base]
    refine ⟨rfl, hline, (o.signed_block info content start).trail_ne_empty, ?_⟩
    have hbelow : o'.trail ≠ "" := by
      rw [ho.trail]
      split
      · exact houter
      · exact joinTrail_ne_empty outer o.trail
    rw [o'.trail_block, if_neg hbelow, hline, o.trail_block, ho.trail]
    split
    · rfl
    · simp only [joinTrail, String.append_assoc]
  content := fun hb => hb.content.symm
  inside := by
    intro b b' hb
    refine ⟨hb.line, ?_⟩
    show b'.trail = if b.trail = "" then outer else joinTrail outer b.trail
    rw [if_neg hb.ne_empty]
    exact hb.trail

/-! ## Texts in place -/

/-- The blocks of a text at the place `o` beside those of the text as a document: `alone` are the
blocks of a document that starts with line 1, and `based` those of one that goes on after the line
before the text. -/
structure Relocated (o : Origin) (alone based placed : List Block) : Prop where
  /-- There are as many blocks as in the document. -/
  length_alone : placed.length = alone.length
  length_based : placed.length = based.length
  /-- The blocks are those of the document, relabelled. -/
  relabelled : ∀ (i : Nat) (b c : Block), alone[i]? = some b → based[i]? = some c →
    placed[i]? = some
      { content := b.content
        line := b.line + o.base
        depth := b.depth + o.depth
        trail := o.trail ++ " > block at " ++ c.trail
        info := b.info
        file := b.file }

/-- Blocks that are related to those of both documents are relabelled. -/
theorem relocated_of_forall₂ {o : Origin} {alone based placed : List Block}
    (hshifted : List.Forall₂ (Block.Shifted o.base o.depth) alone placed)
    (hthrough : List.Forall₂ (Block.Through o.trail) based placed) :
    Relocated o alone based placed := by
  refine ⟨hshifted.length_eq.symm, hthrough.length_eq.symm, ?_⟩
  intro i b c hb hc
  obtain ⟨hi, rfl⟩ := List.getElem?_eq_some_iff.mp hb
  obtain ⟨hi', rfl⟩ := List.getElem?_eq_some_iff.mp hc
  have hplaced : i < placed.length := hshifted.length_eq ▸ hi
  have hs := hshifted.get hi hplaced
  have ht := hthrough.get hi' hplaced
  simp only [List.get_eq_getElem] at hs ht
  rw [List.getElem?_eq_getElem hplaced, Option.some_inj]
  rw [← hs.content, ← hs.line, ← hs.depth, ← hs.info, ← hs.file]
  have htrail : placed[i].trail = o.trail ++ " > block at " ++ based[i].trail := ht.trail
  rw [← htrail]

/-- A limit leaves as many levels in place as its distance from the depth of the text leaves in the
document. -/
theorem Origin.levels_map_sub (o : Origin) {alone : Origin} (halone : alone.depth = 0)
    (limit : Option Int) (bound : Nat) :
    alone.levels (limit.map (· - o.depth)) bound = o.levels limit bound := by
  cases limit with
  | none => rfl
  | some m =>
    show (m - o.depth - alone.depth + 1).toNat = (m - o.depth + 1).toNat
    rw [halone, Int.sub_zero]

/-- A text inside a block gives the blocks that it gives as a document of its own, relabelled, for
every tokenizer, every number of levels that are searched without a limit, and every limit; and so
does the parser of documents. -/
theorem extract_relocated (o : Origin) (htrail : o.trail ≠ "") (limit : Option Int) :
    let alone : Origin := { file := o.file }
    let based : Origin := { file := o.file, base := o.base }
    let within := limit.map (· - o.depth)
    (∀ (tokenize : Tokenizer) (bound : Nat) (text : String),
      Relocated o (blocksOf tokenize (alone.levels within bound) alone text)
        (blocksOf tokenize (based.levels within bound) based text)
        (blocksOf tokenize (o.levels limit bound) o text)) ∧
      ∀ text : String,
        Relocated o (extract text alone within) (extract text based within)
          (extract text o limit) := by
  intro alone based within
  have hshifted : Origin.Shifted o.base o.depth alone o :=
    ⟨rfl, (Int.zero_add o.base).symm, (Int.zero_add o.depth).symm⟩
  have hthrough : Origin.Through o.trail based o := ⟨rfl, rfl⟩
  have hplaced : ∀ (tokenize : Tokenizer) (bound : Nat) (text : String),
      Relocated o (blocksOf tokenize (alone.levels within bound) alone text)
        (blocksOf tokenize (based.levels within bound) based text)
        (blocksOf tokenize (o.levels limit bound) o text) := by
    intro tokenize bound text
    rw [o.levels_map_sub rfl, o.levels_map_sub rfl]
    exact relocated_of_forall₂
      ((alongside_shifted o.base o.depth).forall₂_blocksOf hshifted tokenize _ text)
      ((alongside_through htrail).forall₂_blocksOf hthrough tokenize _ text)
  exact ⟨hplaced, fun text => hplaced markdownTokens (Markdown.linesOf text).size text⟩

/-- A text at depth 2 after line 10, with two levels of blocks and fences without known lines: all
of its blocks, and those that the limit 2 leaves, are the ones of the document, relabelled. -/
theorem extract_relocated_without_lines :
    let tokenize : Tokenizer := fun text =>
      if text = "a" then [.fence "md" "b" (some 0), .fence "MD" "b" none]
      else if text = "b" then [.fence "markdown" "c" none, .other, .fence "md" "d" (some 2)]
      else []
    let o : Origin := ⟨"a.md", 10, 2, "line 10"⟩
    let document : Origin := { file := "a.md" }
    let based : Origin := { file := "a.md", base := 10 }
    o.trail ≠ "" ∧ EndsWithin tokenize 3 "a" ∧
      (blocksOf tokenize 3 o "a").map (fun b => (b.line, b.depth)) =
        [(11, 2), (11, 3), (14, 3), (10, 2), (10, 3), (13, 3)] ∧
      Relocated o (blocksOf tokenize 3 document "a") (blocksOf tokenize 3 based "a")
        (blocksOf tokenize 3 o "a") ∧
      Relocated o (blocksOf tokenize 1 document "a") (blocksOf tokenize 1 based "a")
        (blocksOf tokenize (o.levels (some 2) 3) o "a") := by
  intro tokenize o document based
  have htrail : o.trail ≠ "" := by decide
  refine ⟨htrail, by decide +kernel, by decide +kernel, ?_, ?_⟩
  · exact (extract_relocated o htrail none).1 tokenize 3 "a"
  · exact (extract_relocated o htrail (some 2)).1 tokenize 3 "a"

end FenceLint
