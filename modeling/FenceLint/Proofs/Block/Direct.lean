import FenceLint.Block

/-!
# The blocks directly in a text

`direct` lists the blocks that the Markdown fences of a text are, without those inside them.
Extraction visits them in order and puts after each what its content gives: `blocksOf_succ` is the
equation that the theory of nested blocks rests on.
-/

namespace FenceLint

namespace Origin

/-- The block that a token is, if it is a Markdown fence. -/
def blockOf? (o : Origin) : Token → Option Block
  | .fence info content start =>
    if isMarkdownInfo info then some (o.block info content start) else none
  | .other => none

/-- The blocks that the Markdown fences among some tokens are. -/
def direct (o : Origin) (tokens : List Token) : List Block := tokens.filterMap o.blockOf?

/-- A direct block comes from a Markdown fence. -/
theorem exists_of_mem_direct {o : Origin} {tokens : List Token} {b : Block}
    (hb : b ∈ o.direct tokens) :
    ∃ info content start, .fence info content start ∈ tokens ∧ isMarkdownInfo info = true ∧
      b = o.block info content start := by
  rw [direct, List.mem_filterMap] at hb
  obtain ⟨token, htoken, hb⟩ := hb
  cases token with
  | fence info content start =>
    rw [blockOf?] at hb
    split at hb
    · next hinfo => exact ⟨info, content, start, htoken, hinfo, (Option.some.inj hb).symm⟩
    · simp at hb
  | other => simp [blockOf?] at hb

/-- Direct blocks have the depth of their origin. -/
theorem depth_of_mem_direct {o : Origin} {tokens : List Token} {b : Block}
    (hb : b ∈ o.direct tokens) : b.depth = o.depth := by
  obtain ⟨info, content, start, -, -, rfl⟩ := exists_of_mem_direct hb
  rfl

end Origin

/-- The blocks below a block, `levels` levels of them. -/
def Block.below (tokenize : Tokenizer) (levels : Nat) (b : Block) : List Block :=
  if Text.isBlankText b.content then [] else blocksOf tokenize levels (.inside b) b.content

/-- Extraction gives each direct block, followed by the blocks below it. -/
theorem blocksOf_succ (tokenize : Tokenizer) (levels : Nat) (o : Origin) (text : String) :
    blocksOf tokenize (levels + 1) o text =
      (o.direct (tokenize text)).flatMap fun b => b :: b.below tokenize levels := by
  rw [blocksOf, Origin.direct]
  induction tokenize text with
  | nil => rfl
  | cons token tokens ih =>
    rw [List.flatMap_cons, List.filterMap_cons, ih]
    cases token with
    | fence info content start =>
      simp only [Origin.blockOf?]
      split
      · rw [List.flatMap_cons]
        rfl
      · rfl
    | other => rfl

/-- A block is a direct one, or it is extracted from the content of a direct one. -/
theorem exists_of_mem_blocksOf {tokenize : Tokenizer} {levels : Nat} {o : Origin} {text : String}
    {b : Block} (hb : b ∈ blocksOf tokenize (levels + 1) o text) :
    ∃ outer ∈ o.direct (tokenize text),
      b = outer ∨ b ∈ blocksOf tokenize levels (.inside outer) outer.content := by
  rw [blocksOf_succ, List.mem_flatMap] at hb
  obtain ⟨outer, houter, hb⟩ := hb
  refine ⟨outer, houter, ?_⟩
  rcases List.mem_cons.mp hb with rfl | hb
  · exact Or.inl rfl
  · rw [Block.below] at hb
    split at hb
    · simp at hb
    · exact Or.inr hb

end FenceLint
