import FenceLint.Proofs.Block.Direct
import Mathlib.Data.List.Forall2

/-!
# The forest of nested blocks

Extraction gives a flat list.  Read with the depths of its blocks it is a forest in pre-order, and
nothing about the forest is lost: the blocks below a block are the run of deeper blocks that
follows it.

`Forest sub d bs` is the shape of such a list: trees whose roots have depth `d`, where `sub` gives
what stands below a root, a forest one level deeper.  For every list of this shape the runs are the
subtrees (`Forest.takeWhile_eq`), whatever `sub` is.  The rest of the module shows that extraction
has the shape, with `sub` the extraction of the content of a block under the same limit.

Without a limit the search has to end by itself.  `EndsWithin tokenize n text` says that it does so
within `n` levels, and from then on more levels change nothing (`EndsWithin.blocksOf_eq`).
-/

namespace FenceLint

/-! ## Forests in pre-order -/

/-- Trees of depth `d` one after the other, each with what `sub` puts below its root. -/
inductive Forest (sub : Block → List Block) : Int → List Block → Prop where
  | nil {d : Int} : Forest sub d []
  | cons {d : Int} {b : Block} {rest : List Block} (hdepth : b.depth = d)
      (hsub : Forest sub (d + 1) (sub b)) (hrest : Forest sub d rest) :
      Forest sub d (b :: (sub b ++ rest))

namespace Forest

variable {sub : Block → List Block} {d : Int} {bs : List Block}

/-- A forest starts with a root. -/
theorem head_depth (h : Forest sub d bs) {b : Block} (hb : bs.head? = some b) : b.depth = d := by
  cases h with
  | nil => simp at hb
  | cons hdepth _ _ =>
    obtain rfl : _ = b := by simpa using hb
    exact hdepth

/-- No block of a forest stands above its roots. -/
theorem le_depth (h : Forest sub d bs) {b : Block} (hb : b ∈ bs) : d ≤ b.depth := by
  induction h with
  | nil => simp at hb
  | cons hdepth _ _ ihsub ihrest =>
    rcases List.mem_cons.mp hb with rfl | hb
    · omega
    · rcases List.mem_append.mp hb with hb | hb
      · have := ihsub hb
        omega
      · exact ihrest hb

/-- Trees side by side are a forest. -/
theorem flatMap (h : ∀ b ∈ bs, b.depth = d ∧ Forest sub (d + 1) (sub b)) :
    Forest sub d (bs.flatMap fun b => b :: sub b) := by
  induction bs with
  | nil => exact nil
  | cons b bs ih =>
    obtain ⟨hdepth, hsub⟩ := h b List.mem_cons_self
    exact cons hdepth hsub (ih fun c hc => h c (List.mem_cons_of_mem b hc))

/-- A list of blocks that a block of depth `d` cannot stand above: it is empty or goes on at depth
`d` or less. -/
def Closes (d : Int) (next : List Block) : Prop := ∀ c, next.head? = some c → c.depth ≤ d

/-- A forest, and what closes it, closes every tree before it. -/
theorem closes_append (h : Forest sub d bs) {next : List Block} (hnext : Closes d next) :
    Closes d (bs ++ next) := by
  intro c hc
  cases bs with
  | nil => exact hnext c hc
  | cons b rest => exact Int.le_of_eq (h.head_depth (by simpa using hc))

/-- The run of deeper blocks after a block is what stands below it, also when other blocks follow
the forest. -/
theorem takeWhile_append_eq (h : Forest sub d bs) {pre post next : List Block} {b : Block}
    (hbs : bs = pre ++ b :: post) (hnext : Closes d next) :
    (post ++ next).takeWhile (fun c => b.depth < c.depth) = sub b := by
  induction h generalizing pre post next with
  | nil => simp at hbs
  | @cons d root rest hdepth hsub hrest ihsub ihrest =>
    have hclose : Closes d (rest ++ next) := hrest.closes_append hnext
    cases pre with
    | nil =>
      obtain ⟨rfl, rfl⟩ : root = b ∧ sub root ++ rest = post := by simpa using hbs
      have hdeeper : ∀ c ∈ sub root, root.depth < c.depth := by
        intro c hc
        have := hsub.le_depth hc
        omega
      have hstop : (rest ++ next).takeWhile (fun c => root.depth < c.depth) = [] := by
        cases hhead : rest ++ next with
        | nil => rfl
        | cons c cs =>
          have hc := hclose c (by rw [hhead]; rfl)
          exact List.takeWhile_cons_of_neg (by simpa [hdepth] using hc)
      rw [List.append_assoc, List.takeWhile_append_of_pos (by simpa using hdeeper), hstop,
        List.append_nil]
    | cons root' pre =>
      obtain ⟨-, hbs⟩ : root = root' ∧ sub root ++ rest = pre ++ b :: post := by simpa using hbs
      rcases List.append_eq_append_iff.mp hbs with ⟨mid, hpre, hrest'⟩ | ⟨mid, hsub', hmid⟩
      · -- The block stands behind the first tree.
        exact ihrest hrest' hnext
      · cases mid with
        | nil =>
          have hfirst : rest = [] ++ b :: post := by simpa using hmid.symm
          exact ihrest hfirst hnext
        | cons b' mid =>
          -- The block stands in the first tree, which the rest of the forest closes.
          obtain ⟨rfl, rfl⟩ : b = b' ∧ post = mid ++ rest := by simpa using hmid
          rw [List.append_assoc]
          exact ihsub hsub' fun c hc => by have := hclose c hc; omega

/-- The run of deeper blocks after a block is what stands below it, at every place of a forest. -/
theorem takeWhile_eq (h : Forest sub d bs) {pre post : List Block} {b : Block}
    (hbs : bs = pre ++ b :: post) : post.takeWhile (fun c => b.depth < c.depth) = sub b := by
  have hrun : (post ++ []).takeWhile (fun c => b.depth < c.depth) = sub b :=
    h.takeWhile_append_eq hbs (by simp [Closes])
  rwa [List.append_nil] at hrun

/-- What stands below a block of a forest is a forest one level deeper. -/
theorem sub_of_mem (h : Forest sub d bs) {b : Block} (hb : b ∈ bs) :
    Forest sub (b.depth + 1) (sub b) := by
  induction h with
  | nil => simp at hb
  | cons hdepth hsub _ ihsub ihrest =>
    rcases List.mem_cons.mp hb with rfl | hb
    · exact hdepth ▸ hsub
    · exact (List.mem_append.mp hb).elim ihsub ihrest

/-- From one block to the next the depth rises by one at most. -/
theorem depth_step (h : Forest sub d bs) {pre post : List Block} {b c : Block}
    (hbs : bs = pre ++ b :: c :: post) : c.depth ≤ b.depth + 1 := by
  rcases Int.lt_or_le b.depth c.depth with hlt | hle
  · -- A deeper block is the first one below.
    have hrun := h.takeWhile_eq hbs
    have hhead : (sub b).head? = some c := by simp [← hrun, hlt]
    exact Int.le_of_eq ((h.sub_of_mem (by simp [hbs])).head_depth hhead)
  · omega

end Forest

/-! ## Searches that end -/

/-- The text that is searched in turn, if the token is a Markdown fence that is not blank. -/
def Token.inner? : Token → Option String
  | .fence info content _ =>
    if isMarkdownInfo info && !Text.isBlankText content then some content else none
  | .other => none

/-- The search for blocks of a text ends within `n` levels. -/
def EndsWithin (tokenize : Tokenizer) : Nat → String → Prop
  | 0, _ => False
  | n + 1, text => ∀ inner ∈ (tokenize text).filterMap Token.inner?, EndsWithin tokenize n inner

instance EndsWithin.decidable (tokenize : Tokenizer) :
    ∀ n text, Decidable (EndsWithin tokenize n text)
  | 0, _ => .isFalse id
  | n + 1, text =>
    have := EndsWithin.decidable tokenize n
    inferInstanceAs
      (Decidable (∀ inner ∈ (tokenize text).filterMap Token.inner?, EndsWithin tokenize n inner))

/-- The content of a direct block that is not blank is searched in turn. -/
theorem Origin.content_mem_inner {o : Origin} {tokens : List Token} {b : Block}
    (hb : b ∈ o.direct tokens) (hblank : Text.isBlankText b.content = false) :
    b.content ∈ tokens.filterMap Token.inner? := by
  obtain ⟨info, content, start, htoken, hinfo, rfl⟩ := exists_of_mem_direct hb
  refine List.mem_filterMap.mpr ⟨_, htoken, ?_⟩
  have hblank' : Text.isBlankText content = false := hblank
  simp [Token.inner?, hinfo, hblank', Origin.block]

namespace EndsWithin

variable {tokenize : Tokenizer} {n m : Nat} {text : String}

/-- Once a search ends within the levels it has, more levels change nothing. -/
theorem blocksOf_eq (h : EndsWithin tokenize n text) (hnm : n ≤ m) (o : Origin) :
    blocksOf tokenize m o text = blocksOf tokenize n o text := by
  induction n generalizing m o text with
  | zero => exact h.elim
  | succ n ih =>
    obtain ⟨k, rfl⟩ : ∃ k, m = k + 1 := ⟨m - 1, by omega⟩
    rw [blocksOf_succ, blocksOf_succ]
    refine List.flatMap_congr ?_
    intro b hb
    cases hblank : Text.isBlankText b.content with
    | true => simp [Block.below, hblank]
    | false =>
      have hcontent := h _ (Origin.content_mem_inner hb hblank)
      simp [Block.below, hblank, ih hcontent (show n ≤ k by omega)]

end EndsWithin

/-! ## Extraction gives a forest -/

section Extraction

variable (tokenize : Tokenizer) (limit : Option Int) (bound : Nat)

/-- The levels `n` are those that the limit leaves below the origin; without a limit they have to be
enough for the search of the text to end. -/
def Enough (n : Nat) (o : Origin) (text : String) : Prop :=
  match limit with
  | none => EndsWithin tokenize n text ∧ n ≤ bound
  | some m => n = (m - o.depth + 1).toNat

variable {tokenize limit bound} {n : Nat} {o : Origin} {text : String}

/-- Enough levels give the same blocks as the limit. -/
theorem Enough.blocksOf_eq (h : Enough tokenize limit bound n o text) :
    blocksOf tokenize n o text = blocksOf tokenize (o.levels limit bound) o text := by
  cases limit with
  | none => exact (h.1.blocksOf_eq h.2 o).symm
  | some m => rw [h, Origin.levels]

/-- Enough levels for a text leave enough for the content of a block in it. -/
theorem Enough.inside (h : Enough tokenize limit bound (n + 1) o text) {b : Block}
    (hb : b ∈ o.direct (tokenize text)) (hblank : Text.isBlankText b.content = false) :
    Enough tokenize limit bound n (.inside b) b.content := by
  cases limit with
  | none => exact ⟨h.1 _ (Origin.content_mem_inner hb hblank), by have := h.2; omega⟩
  | some m =>
    have hdepth := Origin.depth_of_mem_direct hb
    have h : n + 1 = (m - o.depth + 1).toNat := h
    show n = (m - (b.depth + 1) + 1).toNat
    omega

/-- The blocks below a block when extraction starts anew from its content, under the same limit. -/
def Block.subtree (tokenize : Tokenizer) (limit : Option Int) (bound : Nat) (b : Block) :
    List Block :=
  b.below tokenize ((Origin.inside b).levels limit bound)

/-- With enough levels, what extraction puts below a direct block is its subtree. -/
theorem Enough.below_eq (h : Enough tokenize limit bound (n + 1) o text) {b : Block}
    (hb : b ∈ o.direct (tokenize text)) :
    b.below tokenize n = b.subtree tokenize limit bound := by
  rw [Block.subtree, Block.below, Block.below]
  cases hblank : Text.isBlankText b.content with
  | true => rfl
  | false => rw [(h.inside hb hblank).blocksOf_eq]

/-- The list of extracted blocks is the forest of their subtrees in pre-order. -/
theorem forest_blocksOf (h : Enough tokenize limit bound n o text) :
    Forest (Block.subtree tokenize limit bound) o.depth (blocksOf tokenize n o text) := by
  induction n generalizing o text with
  | zero => exact .nil
  | succ n ih =>
    have hbelow : ∀ b ∈ o.direct (tokenize text),
        b :: b.below tokenize n = b :: b.subtree tokenize limit bound :=
      fun b hb => by rw [h.below_eq hb]
    rw [blocksOf_succ, List.flatMap_congr hbelow]
    refine Forest.flatMap fun b hb => ?_
    have hdepth := Origin.depth_of_mem_direct hb
    refine ⟨hdepth, ?_⟩
    rw [← h.below_eq hb, Block.below]
    split
    · exact .nil
    · next hblank =>
      have hinside : Forest _ (b.depth + 1) _ := ih (h.inside hb (by simpa using hblank))
      rwa [hdepth] at hinside

/-- Blocks stay in the file of the text that they are extracted from. -/
theorem file_of_mem_blocksOf {b : Block} (hb : b ∈ blocksOf tokenize n o text) :
    b.file = o.file := by
  induction n generalizing o text with
  | zero => simp [blocksOf] at hb
  | succ n ih =>
    obtain ⟨outer, houter, hb⟩ := exists_of_mem_blocksOf hb
    obtain ⟨info, content, start, -, -, rfl⟩ := Origin.exists_of_mem_direct houter
    rcases hb with rfl | hb
    · rfl
    · have hfile := ih hb
      exact hfile

/-- Every level of the search is one level of depth. -/
theorem depth_lt_of_mem_blocksOf {b : Block} (hb : b ∈ blocksOf tokenize n o text) :
    b.depth < o.depth + n := by
  induction n generalizing o text with
  | zero => simp [blocksOf] at hb
  | succ n ih =>
    obtain ⟨outer, houter, hb⟩ := exists_of_mem_blocksOf hb
    have hdepth := Origin.depth_of_mem_direct houter
    rcases hb with rfl | hb
    · omega
    · have hinside : b.depth < outer.depth + 1 + n := ih hb
      omega

/-- The blocks at the depth of the text are its direct blocks, when at least one level is searched.
-/
theorem filter_depth_blocksOf (h : Enough tokenize limit bound (n + 1) o text) :
    (blocksOf tokenize (n + 1) o text).filter (fun b => b.depth = o.depth) =
      o.direct (tokenize text) := by
  have hforest := forest_blocksOf h
  have htree : ∀ b ∈ o.direct (tokenize text),
      (b :: b.below tokenize n).filter (fun b => b.depth = o.depth) = [b] := by
    intro b hb
    have hdepth := Origin.depth_of_mem_direct hb
    have hmem : b ∈ blocksOf tokenize (n + 1) o text := by
      rw [blocksOf_succ]
      exact List.mem_flatMap.mpr ⟨b, hb, List.mem_cons_self⟩
    rw [List.filter_cons_of_pos (by simpa using hdepth), List.cons_eq_cons]
    refine ⟨rfl, List.filter_eq_nil_iff.mpr fun c hc => ?_⟩
    rw [h.below_eq hb] at hc
    have hdeeper := (hforest.sub_of_mem hmem).le_depth hc
    rw [decide_eq_true_eq]
    omega
  rw [blocksOf_succ, List.filter_flatMap, List.flatMap_congr htree, List.flatMap_singleton']

end Extraction

/-! ## The blocks of a text in pre-order -/

/-- The token is a Markdown fence. -/
def Token.isMarkdown : Token → Bool
  | .fence info _ _ => isMarkdownInfo info
  | .other => false

/-- A token of a text of origin `o`, and the block that it opens. -/
inductive Opens (o : Origin) : Token → Block → Prop where
  | fence {info : String} {start : Option Int} {b : Block} (hinfo : b.info = Text.strip info)
      (hline : b.line = match start with
        | some s => o.base + s + 1
        | none => o.base)
      (hdepth : b.depth = o.depth)
      (htrail : b.trail =
        if o.trail = "" then "line " ++ toString b.line
        else o.trail ++ " > block at line " ++ toString b.line)
      (hfile : b.file = o.file) : Opens o (.fence info b.content start) b

/-- A fence opens the block that it is. -/
theorem Origin.opens_block (o : Origin) (info content : String) (start : Option Int) :
    Opens o (.fence info content start) (o.block info content start) := by
  refine Opens.fence (b := o.block info content start) rfl rfl rfl ?_ rfl
  simp only [Origin.block, String.isEmpty_iff]

/-- The direct blocks are opened by the Markdown fences, one by each and in order. -/
theorem Origin.forall₂_opens_direct (o : Origin) (tokens : List Token) :
    List.Forall₂ (Opens o) (tokens.filter Token.isMarkdown) (o.direct tokens) := by
  induction tokens with
  | nil => exact .nil
  | cons token tokens ih =>
    rw [direct, List.filter_cons, List.filterMap_cons]
    cases token with
    | other => exact ih
    | fence info content start =>
      cases hmarkdown : isMarkdownInfo info with
      | true =>
        simp only [Token.isMarkdown, blockOf?, hmarkdown, if_true]
        exact .cons (o.opens_block info content start) ih
      | false =>
        simp only [Token.isMarkdown, blockOf?, hmarkdown, Bool.false_eq_true, if_false]
        exact ih

/-- The blocks extracted from a text are the forest of its Markdown fences in pre-order. -/
structure InPreorder (tokenize : Tokenizer) (limit : Option Int) (bound : Nat) (o : Origin)
    (text : String) (bs : List Block) : Prop where
  /-- The blocks at the depth of the text are opened by its own Markdown fences. -/
  roots : (∀ m, limit = some m → o.depth ≤ m) →
    List.Forall₂ (Opens o) ((tokenize text).filter Token.isMarkdown)
      (bs.filter fun b => b.depth = o.depth)
  /-- The deeper blocks right after a block are what is extracted from its content. -/
  runs : ∀ i, (hi : i < bs.length) →
    (bs.drop (i + 1)).takeWhile (fun c => bs[i].depth < c.depth) =
      if Text.strip bs[i].content = "" then []
      else
        let inside : Origin := ⟨o.file, bs[i].line, bs[i].depth + 1, bs[i].trail⟩
        blocksOf tokenize (inside.levels limit bound) inside bs[i].content
  /-- The first block is at the depth of the text. -/
  head : ∀ b, bs.head? = some b → b.depth = o.depth
  /-- No block is less deep. -/
  least : ∀ b ∈ bs, o.depth ≤ b.depth
  /-- No block is deeper than the limit. -/
  most : ∀ m, limit = some m → ∀ b ∈ bs, b.depth ≤ m
  /-- The next block is deeper by one at most. -/
  rise : ∀ i, (hi : i + 1 < bs.length) → bs[i + 1].depth ≤ bs[i].depth + 1

/-- Extraction gives the blocks of a text in pre-order, for every tokenizer and every limit; without
a limit, whenever `bound` levels are enough for the search to end. -/
theorem inPreorder_blocksOf (tokenize : Tokenizer) (limit : Option Int) (bound : Nat) (o : Origin)
    (text : String) (hends : limit = none → EndsWithin tokenize bound text) :
    InPreorder tokenize limit bound o text
      (blocksOf tokenize (o.levels limit bound) o text) := by
  have henough : Enough tokenize limit bound (o.levels limit bound) o text := by
    cases limit with
    | none => exact ⟨hends rfl, Nat.le_refl bound⟩
    | some m => rfl
  have hforest := forest_blocksOf henough
  have hsplit : ∀ {bs : List Block} (i : Nat) (hi : i < bs.length),
      bs = bs.take i ++ bs[i] :: bs.drop (i + 1) := by
    intro bs i hi
    rw [List.getElem_cons_drop, List.take_append_drop]
  refine ⟨?_, ?_, fun b hb => hforest.head_depth hb, fun b hb => hforest.le_depth hb, ?_, ?_⟩
  · intro hlimit
    obtain ⟨n, hn⟩ : ∃ n, o.levels limit bound = n + 1 := by
      cases limit with
      | none =>
        cases bound with
        | zero => exact (hends rfl).elim
        | succ n => exact ⟨n, rfl⟩
      | some m =>
        have := hlimit m rfl
        exact ⟨(m - o.depth).toNat, by rw [Origin.levels]; omega⟩
    rw [hn] at henough ⊢
    rw [filter_depth_blocksOf henough]
    exact o.forall₂_opens_direct (tokenize text)
  · intro i hi
    rw [hforest.takeWhile_eq (hsplit i hi), Block.subtree, Block.below, Origin.inside,
      file_of_mem_blocksOf (List.getElem_mem hi)]
    simp only [Text.isBlankText_iff]
  · rintro m rfl b hb
    have hlt := depth_lt_of_mem_blocksOf hb
    have hle := hforest.le_depth hb
    rw [Origin.levels] at hlt
    omega
  · intro i hi
    have hstep := hsplit i (Nat.lt_of_succ_lt hi)
    rw [List.drop_eq_getElem_cons hi] at hstep
    exact hforest.depth_step hstep

/-- Two fences in a text, the first of which holds a third one, and no depth limit. -/
theorem inPreorder_of_nested_fence :
    let tokenize : Tokenizer := fun text =>
      if text = "a" then [.fence "md" "b" (some 0), .other, .fence " MD " "" none]
      else if text = "b" then [.fence "Markdown" "c" (some 4), .fence "text" "a" (some 7)]
      else []
    EndsWithin tokenize 3 "a" ∧ (blocksOf tokenize 3 {} "a").length = 3 ∧
      InPreorder tokenize none 3 {} "a" (blocksOf tokenize 3 {} "a") := by
  intro tokenize
  have hends : EndsWithin tokenize 3 "a" := by decide +kernel
  exact ⟨hends, by decide +kernel, inPreorder_blocksOf tokenize none 3 {} "a" fun _ => hends⟩

end FenceLint
