import FenceLint.Proofs.Json.Passes

/-!
# Where comments stand

If a comment leaves a space behind, the first pass can be undone: a text of lexemes with white space
between them comes from one with the same lexemes and with comments in the gaps only
(`LaidOut.of_replace`).  This does not hold of a comment that leaves nothing behind, which may have
stood inside a lexeme.

Without comments a text is left alone, and a text with a space in the place of each comment has none
(`replaceFrom_space`).
-/

namespace FenceLint.Json

open Comments

/-! ## Comments -/

/-- A comment, what is left of it and the text after it. -/
inductive Comment (filler : List Char) : List Char → List Char → List Char → Prop where
  | line {text cs : List Char} (htext : '\n' ∉ text) :
      Comment filler ('/' :: '/' :: (text ++ ['\n'])) (filler ++ ['\n']) cs
  | lastLine {text : List Char} (htext : '\n' ∉ text) :
      Comment filler ('/' :: '/' :: text) filler []
  | block {text cs : List Char} (htext : ¬ ['*', '/'] <:+: text) :
      Comment filler ('/' :: '*' :: (text ++ ['*', '/'])) filler cs

/-- The character starts no comment. -/
def StartsNone (c : Char) (cs : List Char) : Prop :=
  c = '/' → cs.head? ≠ some '/' ∧ ∀ cs', cs = '*' :: cs' → closesBlock cs' = false

/-- How the first pass goes through a text. -/
abbrev Replaces (filler : List Char) : List Char → List Char → Prop :=
  Rewrites true StartsNone (Comment filler)

/-- A block comment ends with the first mark that ends it. -/
theorem exists_of_closesBlock {cs : List Char} (h : closesBlock cs = true) :
    ∃ text rest, ¬ ['*', '/'] <:+: text ∧ cs = text ++ '*' :: '/' :: rest := by
  fun_induction closesBlock cs with
  | case1 => contradiction
  | case2 rest => exact ⟨[], rest, by simp, rfl⟩
  | case3 c cs hend ih =>
    obtain ⟨text, rest, htext, rfl⟩ := ih h
    refine ⟨c :: text, rest, fun hin => ?_, rfl⟩
    rcases List.infix_cons_iff.1 hin with ⟨more, hstart⟩ | hin
    · obtain ⟨rfl, rfl⟩ := List.cons.inj hstart
      exact hend _ rfl rfl
    · exact htext hin

/-- Outside of comments, the first pass keeps characters. -/
theorem replaceFrom_code_of_startsNone {filler : List Char} {c : Char} {cs : List Char}
    (h : StartsNone c cs) : replaceFrom filler .code (c :: cs) = c ::
      replaceFrom filler (if c == '"' && closesLiteral true cs then .literal else .code) cs := by
  by_cases hblock : c = '/' ∧ ∃ rest, cs = '*' :: rest
  · obtain ⟨rfl, rest, rfl⟩ := hblock
    have hopen := (h rfl).2 rest rfl
    simp [replaceFrom, hopen]
  · rw [replaceFrom]
    · rintro rest rfl rfl
      exact (h rfl).1 rfl
    · rintro rest rfl rfl
      exact hblock ⟨rfl, rest, rfl⟩

/-- A character that starts no comment, or a comment. -/
theorem startsNone_or (c : Char) (cs : List Char) :
    StartsNone c cs ∨ c = '/' ∧ ((∃ rest, cs = '/' :: rest) ∨
      ∃ rest, cs = '*' :: rest ∧ closesBlock rest = true) := by
  by_cases hblock : ∃ rest, cs = '*' :: rest ∧ closesBlock rest = true
  · by_cases hslash : c = '/'
    · exact .inr ⟨hslash, .inr hblock⟩
    · exact .inl fun hc => absurd hc hslash
  · by_cases hline : c = '/' ∧ cs.head? = some '/'
    · obtain ⟨rest, rfl⟩ := List.head?_eq_some_iff.1 hline.2
      exact .inr ⟨hline.1, .inl ⟨rest, rfl⟩⟩
    · refine .inl fun hc => ⟨fun hhead => hline ⟨hc, hhead⟩, fun rest hcs => ?_⟩
      exact Bool.eq_false_iff.2 fun hclosed => hblock ⟨rest, hcs, hclosed⟩

/-- The first pass replaces comments and nothing else. -/
theorem replaces_replaceFrom (filler : List Char) :
    ∀ cs : List Char, Replaces filler cs (replaceFrom filler .code cs)
  | [] => .nil
  | c :: cs => by
    rcases startsNone_or c cs with hnone | ⟨rfl, ⟨rest, rfl⟩ | ⟨rest, rfl, hclosed⟩⟩
    · rw [replaceFrom_code_of_startsNone hnone]
      by_cases hliteral : c = '"' ∧ closesLiteral true cs = true
      · obtain ⟨rfl, hcloses⟩ := hliteral
        obtain ⟨body, rest, hbody, rfl⟩ := exists_enclosed hcloses
        rw [if_pos (by simpa using hcloses), hbody.replaceFrom_append]
        exact .literal hbody (replaces_replaceFrom filler rest)
      · rw [if_neg (by simpa using hliteral)]
        refine .kept hnone (fun hc => ?_) (replaces_replaceFrom filler cs)
        simpa [hc] using hliteral
    · by_cases hline : '\n' ∈ rest
      · obtain ⟨text, rest, rfl, htext⟩ := List.eq_append_cons_of_mem hline
        have hout : replaceFrom filler .code ('/' :: '/' :: (text ++ '\n' :: rest)) =
            (filler ++ ['\n']) ++ replaceFrom filler .code rest := by
          simp [replaceFrom, replaceFrom_line_append htext]
        rw [hout]
        simpa using Rewrites.piece (.line htext) (replaces_replaceFrom filler rest)
      · have hskip : replaceFrom filler .line (rest ++ []) = replaceFrom filler .line [] :=
          replaceFrom_line_append hline []
        rw [List.append_nil] at hskip
        rw [replaceFrom, hskip]
        simpa [replaceFrom] using Rewrites.piece (.lastLine hline) .nil
    · obtain ⟨text, rest, htext, rfl⟩ := exists_of_closesBlock hclosed
      have hout : replaceFrom filler .code ('/' :: '*' :: (text ++ '*' :: '/' :: rest)) =
          filler ++ replaceFrom filler .code rest := by
        simp [replaceFrom, hclosed, replaceFrom_block_append htext]
      rw [hout]
      simpa using Rewrites.piece (.block htext) (replaces_replaceFrom filler rest)
termination_by cs => cs.length

/-! ## Gaps -/

theorem tame_comment : Tame true (Comment [' ']) (· = ' ') where
  starts := by
    rintro _ _ _ (htext | htext | htext)
    · exact ⟨' ', ['\n'], rfl, rfl⟩
    · exact ⟨' ', [], rfl, rfl⟩
    · exact ⟨' ', [], rfl, rfl⟩
  neutral := by
    -- What is left of a comment closes nothing, and behind the comment nothing is hidden.
    rintro _ _ cs out hidden (@⟨text, _, htext⟩ | @⟨text, htext⟩ | @⟨text, _, htext⟩) h hout
    · have hcs : closesFrom true hidden (('/' :: '/' :: text) ++ '\n' :: cs) = false := by
        simpa using h
      refine closesFrom_cons_eq_false (by decide) (closesFrom_cons_eq_false (by decide) ?_)
      exact hout (closesFrom_of_append (by decide) hcs)
    · exact closesFrom_cons_eq_false (by decide) (hout rfl)
    · have hcs : closesFrom true hidden (('/' :: '*' :: (text ++ ['*'])) ++ '/' :: cs) = false := by
        simpa using h
      refine closesFrom_cons_eq_false (by decide) ?_
      exact hout (closesFrom_of_append (by decide) hcs)

/-- The text starts with a gap, and the rest of it is replaced by `out`; or nothing is left, and the
whole text is a gap. -/
def StartsWithGap (cs out : List Char) : Prop :=
  (∃ g cs', Gap g ∧ cs = g ++ cs' ∧ Replaces [' '] cs' out) ∨ out = [] ∧ LastGap cs

/-- A gap may be made longer in front. -/
theorem StartsWithGap.prepend {p cs out : List Char} (hp : ∀ g, Gap g → Gap (p ++ g))
    (h : StartsWithGap cs out) : StartsWithGap (p ++ cs) out := by
  rcases h with ⟨g, cs', hg, rfl, h⟩ | ⟨rfl, hlast⟩
  · exact .inl ⟨p ++ g, cs', hp g hg, (List.append_assoc p g cs').symm, h⟩
  · refine .inr ⟨rfl, ?_⟩
    cases hlast with
    | gap hg => exact .gap (hp _ hg)
    | line hg htext =>
      rw [← List.append_assoc]
      exact .line (hp _ hg) htext

/-- What a comment leaves behind is white space. -/
theorem Comment.white {piece left cs : List Char} (h : Comment [' '] piece left cs) :
    White left := by
  cases h with
  | line | lastLine | block => simp [White, whiteChars]

/-- White space ends where something else begins. -/
theorem White.exists_of_append {w left out out' : List Char} (hleft : White left)
    (hout : ∀ c ∈ out.head?, c ∉ whiteChars) (h : w ++ out = left ++ out') :
    ∃ w', w = left ++ w' ∧ w' ++ out = out' := by
  rcases List.append_eq_append_iff.1 h with ⟨more, rfl, hmore⟩ | ⟨more, hmore, hrest⟩
  · cases more with
    | nil => exact ⟨[], by simp, by simpa using hmore⟩
    | cons c more =>
      refine absurd (hleft c (by simp)) (hout c ?_)
      simp [hmore]
  · exact ⟨more, hmore, hrest.symm⟩

theorem Replaces.eq_nil_of_nil {filler out : List Char} (h : Replaces filler [] out) :
    out = [] := by
  generalize hcs : [] = cs at h
  cases h with
  | nil => rfl
  | kept | literal => contradiction
  | piece hpiece =>
    cases hpiece with
    | line | lastLine | block => contradiction

/-- White space comes from a gap. -/
theorem Replaces.startsWithGap {w cs out : List Char} (hw : White w)
    (hout : ∀ c ∈ out.head?, c ∉ whiteChars) (h : Replaces [' '] cs (w ++ out)) :
    StartsWithGap cs out := by
  generalize heq : w ++ out = out' at h
  induction h generalizing w with
  | nil =>
    obtain ⟨-, rfl⟩ := List.append_eq_nil_iff.1 heq
    exact .inl ⟨[], [], .nil, rfl, .nil⟩
  | @kept c cs out' hkeep hquote h ih =>
    cases w with
    | nil =>
      obtain rfl : out = c :: out' := heq
      exact .inl ⟨[], c :: cs, .nil, rfl, .kept hkeep hquote h⟩
    | cons d w =>
      obtain ⟨rfl, htail⟩ := List.cons.inj heq
      obtain ⟨hd, hw⟩ := List.forall_mem_cons.1 hw
      exact (ih hw htail).prepend (p := [d]) fun g hg => .white hd hg
  | @literal body cs out' hbody h ih =>
    cases w with
    | nil =>
      obtain rfl : out = '"' :: (body ++ '"' :: out') := heq
      exact .inl ⟨[], _, .nil, rfl, .literal hbody h⟩
    | cons d w =>
      obtain ⟨rfl, -⟩ := List.cons.inj heq
      exact absurd (hw '"' (by simp)) (by decide)
  | @piece piece left cs out' hpiece h ih =>
    -- What a comment leaves behind is part of the white space.
    obtain ⟨w', hw', htail⟩ := hpiece.white.exists_of_append hout heq
    replace hw' : White w' := fun c hc => hw c (by simp [hw', hc])
    cases hpiece with
    | line htext =>
      exact (ih hw' htail).prepend fun g hg => by simpa using Gap.line htext hg
    | @lastLine text htext =>
      obtain rfl := Replaces.eq_nil_of_nil h
      obtain ⟨-, rfl⟩ := List.append_eq_nil_iff.1 htail
      refine .inr ⟨rfl, ?_⟩
      rw [List.append_nil]
      exact .line .nil htext
    | block htext =>
      exact (ih hw' htail).prepend fun g hg => by simpa using Gap.block htext hg

/-! ## Texts -/

/-- No lexeme starts with white space. -/
theorem Lexeme.Valid.head?_not_white {t : Lexeme} (ht : t.Valid) (rest : List Char) :
    ∀ c ∈ (t.text ++ rest).head?, c ∉ whiteChars := by
  obtain ⟨d, ds, htext, hblank, -⟩ := ht.exists_text_eq
  intro c hc hwhite
  obtain rfl : d = c := by simpa [htext] using hc
  rw [isBlank_of_mem_whiteChars hwhite] at hblank
  contradiction

/-- A lexeme with white space before it comes from one with a gap before it. -/
theorem Replaces.exists_of_white_append {w cs out : List Char} {t : Lexeme} (hw : White w)
    (ht : t.Valid) (h : Replaces [' '] cs (w ++ (t.text ++ out))) :
    ∃ g cs', Gap g ∧ cs = g ++ (t.text ++ cs') ∧ Replaces [' '] cs' out := by
  have hfirst : ∀ c ∈ t.text.head?, c ≠ ' ' := by
    rintro c hc rfl
    exact ht.head?_not_white [] ' ' (by simpa using hc) (by decide)
  have hbare : ∀ c, isBareChar c = true → c ≠ ' ' := fun c hc => ne_of_isBareChar hc (by decide)
  rcases Replaces.startsWithGap hw (ht.head?_not_white out) h with ⟨g, cs', hg, rfl, h'⟩ | ⟨hnil, -⟩
  · obtain ⟨cs'', rfl, h''⟩ := Rewrites.exists_of_lexeme ht h' tame_comment hfirst hbare
    exact ⟨g, cs'', hg, rfl, h''⟩
  · obtain ⟨d, ds, htext, -, -⟩ := ht.exists_text_eq
    simp [htext] at hnil

/-- A text with white space in its gaps comes from one with comments in them. -/
theorem Loose.exists_gaps {ts : List Lexeme} {body cs out : List Char} (h : Loose White ts body)
    (hts : ∀ t ∈ ts, t.Valid) (hreplaces : Replaces [' '] cs (body ++ out)) :
    ∃ body' cs', Loose Gap ts body' ∧ cs = body' ++ cs' ∧ Replaces [' '] cs' out := by
  induction h generalizing cs with
  | nil => exact ⟨[], cs, .nil, rfl, hreplaces⟩
  | lexeme hw _ ih =>
    obtain ⟨ht, hts⟩ := List.forall_mem_cons.1 hts
    simp only [List.append_assoc] at hreplaces
    obtain ⟨g, rest, hg, rfl, hrest⟩ := Replaces.exists_of_white_append hw ht hreplaces
    obtain ⟨body', cs', hbody', rfl, h'⟩ := ih hts hrest
    exact ⟨_, cs', .lexeme hg hbody', by simp, h'⟩
  | comma hclosing hw hw' _ ih =>
    obtain ⟨ht, hts⟩ := List.forall_mem_cons.1 hts
    simp only [List.append_assoc, List.cons_append] at hreplaces
    -- The extra comma is traced back like a comma of the grammar.
    obtain ⟨g, rest, hg, rfl, hrest⟩ :=
      Replaces.exists_of_white_append (t := .comma) hw trivial hreplaces
    obtain ⟨g', rest', hg', rfl, hrest'⟩ := Replaces.exists_of_white_append hw' ht hrest
    obtain ⟨body', cs', hbody', rfl, h'⟩ := ih hts hrest'
    exact ⟨_, cs', .comma hclosing hg hg' hbody', by simp [Lexeme.text], h'⟩

/-- If a text of lexemes has a space in the place of each comment, they stood in its gaps. -/
theorem LaidOut.of_replace {ts : List Lexeme} {cs : List Char}
    (h : LaidOut White White ts (replaceFrom [' '] .code cs)) (hts : ∀ t ∈ ts, t.Valid) :
    LaidOut Gap LastGap ts cs := by
  obtain ⟨body, last, hbody, hlast, hcs⟩ := h
  have hreplaces : Replaces [' '] cs (body ++ last) := hcs ▸ replaces_replaceFrom [' '] cs
  obtain ⟨body', cs', hbody', rfl, h'⟩ := hbody.exists_gaps hts hreplaces
  refine ⟨body', cs', hbody', ?_, rfl⟩
  rw [← List.append_nil last] at h'
  rcases Replaces.startsWithGap hlast (by simp) h' with ⟨g, rest, hg, rfl, hrest⟩ | ⟨-, hlast⟩
  · obtain rfl := hrest.eq_nil tame_comment
    rw [List.append_nil]
    exact .gap hg
  · exact hlast

/-! ## Texts without comments -/

/-- Where the end of a block comment can stand. -/
theorem closesBlock_cons_iff {c : Char} {cs : List Char} :
    closesBlock (c :: cs) = false ↔ ¬ (c = '*' ∧ cs.head? = some '/') ∧ closesBlock cs = false := by
  by_cases hend : c = '*' ∧ cs.head? = some '/'
  · obtain ⟨rfl, hhead⟩ := hend
    obtain ⟨rest, rfl⟩ := List.head?_eq_some_iff.1 hhead
    simp [closesBlock]
  · rw [closesBlock]
    · simp [hend]
    · rintro rest rfl rfl
      exact hend ⟨rfl, rfl⟩

theorem closesBlock_of_append {xs cs : List Char} (h : closesBlock (xs ++ cs) = false) :
    closesBlock cs = false := by
  induction xs with
  | nil => exact h
  | cons x xs ih => exact ih (closesBlock_cons_iff.1 h).2

theorem White.closesBlock_append {w cs : List Char} (hw : White w) (h : closesBlock cs = false) :
    closesBlock (w ++ cs) = false := by
  induction w with
  | nil => exact h
  | cons c w ih =>
    obtain ⟨hc, hw⟩ := List.forall_mem_cons.1 hw
    refine closesBlock_cons_iff.2 ⟨?_, ih hw⟩
    rintro ⟨rfl, -⟩
    exact absurd hc (by decide)

/-- A change behind a character that ends no block comment. -/
theorem closesBlock_append_cons {xs cs out : List Char} {c : Char} (hc : c ≠ '*')
    (h : closesBlock (xs ++ c :: cs) = false) (hout : closesBlock out = false) :
    closesBlock (xs ++ c :: out) = false := by
  induction xs with
  | nil => exact closesBlock_cons_iff.2 ⟨fun hend => hc hend.1, hout⟩
  | cons x xs ih =>
    obtain ⟨hend, htail⟩ := closesBlock_cons_iff.1 h
    refine closesBlock_cons_iff.2 ⟨fun hend' => hend ⟨hend'.1, ?_⟩, ih htail⟩
    cases xs with
    | nil => exact hend'.2
    | cons y ys => exact hend'.2

namespace Replaces

variable {cs out : List Char}

/-- Only spaces are new. -/
theorem head?_eq {c : Char} (h : Replaces [' '] cs out) (hc : c ≠ ' ') (hout : out.head? = some c) :
    cs.head? = some c := by
  cases h with
  | nil => contradiction
  | kept => exact hout
  | literal => exact hout
  | piece hpiece =>
    obtain ⟨_, rest, rfl, rfl⟩ := tame_comment.starts hpiece
    exact absurd (Option.some.inj hout).symm hc

/-- A text without the end of a block comment has none after the pass. -/
theorem closesBlock_eq_false (h : Replaces [' '] cs out) (hcs : closesBlock cs = false) :
    closesBlock out = false := by
  induction h with
  | nil => rfl
  | kept _ _ h ih =>
    obtain ⟨hend, htail⟩ := closesBlock_cons_iff.1 hcs
    exact closesBlock_cons_iff.2
      ⟨fun hend' => hend ⟨hend'.1, head?_eq h (by decide) hend'.2⟩, ih htail⟩
  | @literal body cs out _ _ ih =>
    have hafter : closesBlock (('"' :: body) ++ '"' :: cs) = false := hcs
    have hbehind := (closesBlock_cons_iff.1 (closesBlock_of_append hafter)).2
    have hout : closesBlock (('"' :: body) ++ '"' :: out) = false :=
      closesBlock_append_cons (by decide) hafter (ih hbehind)
    exact hout
  | piece hpiece _ ih => exact hpiece.white.closesBlock_append (ih (closesBlock_of_append hcs))

/-- A character that starts no comment starts none after the pass. -/
theorem startsNone {c : Char} (h : Replaces [' '] cs out) (hkeep : StartsNone c cs) :
    StartsNone c out := by
  intro hc
  obtain ⟨hline, hblock⟩ := hkeep hc
  refine ⟨fun hhead => hline (head?_eq h (by decide) hhead), ?_⟩
  rintro out' rfl
  obtain ⟨cs', rfl, h'⟩ := Rewrites.exists_of_cons h tame_comment (by decide) (by decide)
  exact closesBlock_eq_false h' (hblock cs' rfl)

end Replaces

/-- A text with a space in the place of each comment has no comments. -/
theorem replaceFrom_space (filler cs : List Char) :
    replaceFrom filler .code (replaceFrom [' '] .code cs) = replaceFrom [' '] .code cs := by
  have hreplaces := replaces_replaceFrom [' '] cs
  generalize replaceFrom [' '] .code cs = out at hreplaces ⊢
  induction hreplaces with
  | nil => rfl
  | @kept c cs out hkeep hquote h ih =>
    have hopen : (c == '"' && closesLiteral true out) = false := by
      cases hc : c == '"' with
      | false => rfl
      | true => exact h.closesLiteral_eq_false tame_comment (hquote (eq_of_beq hc))
    rw [replaceFrom_code_of_startsNone (Replaces.startsNone h hkeep), hopen, if_neg (by simp), ih]
  | literal hbody _ ih =>
    simp [replaceFrom, hbody.closesLiteral_append, hbody.replaceFrom_append, ih]
  | piece hpiece _ ih =>
    rw [hpiece.white.replaceFrom_append, ih]

end FenceLint.Json
