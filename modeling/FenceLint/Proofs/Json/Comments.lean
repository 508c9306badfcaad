import FenceLint.Json.Comments
import FenceLint.Proofs.Json.Grammar

/-!
# Removing comments and extra commas

A decorated text is turned into a plain one.  The first pass leaves the lexemes alone and turns
every gap into white space; the second pass leaves the lexemes alone too, and of the commas it
removes those that the grammar does not ask for.  The passes look for the end of a literal in
different ways, but both find it where the grammar has it (`Enclosed.closesLiteral_append`).

What the first pass does is the same whether a comment leaves nothing behind or any white space, so
it is stated for a pass that puts a filler in the place of each comment (`replaceFrom`).

The statements are about a text with any text after it, so that they can be put together.
-/

namespace FenceLint.Json

open Comments

/-! ## Comments and their places -/

/-- The first pass with a filler in the place of each comment. -/
def Comments.replaceFrom (filler : List Char) : Mode → List Char → List Char
  | _, [] => []
  | .literal, c :: cs =>
    c :: replaceFrom filler
      (if c == '"' then .code else if c == '\\' then .escaped else .literal) cs
  | .escaped, c :: cs => c :: replaceFrom filler .literal cs
  | .line, c :: cs =>
    if c == '\n' then c :: replaceFrom filler .code cs else replaceFrom filler .line cs
  | .block, '*' :: '/' :: cs => replaceFrom filler .code cs
  | .block, _ :: cs => replaceFrom filler .block cs
  | .code, '/' :: '/' :: cs => filler ++ replaceFrom filler .line cs
  | .code, '/' :: '*' :: cs =>
    if closesBlock cs then filler ++ replaceFrom filler .block cs
    else '/' :: '*' :: replaceFrom filler .code cs
  | .code, c :: cs =>
    c :: replaceFrom filler (if c == '"' && closesLiteral true cs then .literal else .code) cs

/-- Without a filler, comments are removed. -/
theorem replaceFrom_nil (mode : Mode) (cs : List Char) :
    replaceFrom [] mode cs = removeFrom mode cs := by
  fun_induction removeFrom mode cs <;> simp_all [replaceFrom]

variable {filler : List Char}

/-! ## Literals -/

/-- What a pass sees of the body of a literal: a backslash hides the character after it, a line feed
only if `hideNewline`, and no other quote stands in it. -/
inductive Enclosed (hideNewline : Bool) : List Char → Prop where
  | nil : Enclosed hideNewline []
  | plain {c : Char} {cs : List Char} (hquote : c ≠ '"') (hescape : c ≠ '\\')
      (h : Enclosed hideNewline cs) : Enclosed hideNewline (c :: cs)
  | hidden {c : Char} {cs : List Char} (hnewline : (hideNewline || c != '\n') = true)
      (h : Enclosed hideNewline cs) : Enclosed hideNewline ('\\' :: c :: cs)

/-- Both passes see the body of a literal of the grammar. -/
theorem LiteralBody.enclosed {body : List Char} (h : LiteralBody body) (hideNewline : Bool) :
    Enclosed hideNewline body := by
  induction h with
  | nil => exact .nil
  | plain hquote hescape _ _ ih => exact .plain hquote hescape ih
  | @escape c cs hc _ ih =>
    have hnewline : c ≠ '\n' := by
      rintro rfl
      simp at hc
    exact .hidden (by simp [hnewline]) ih
  | @unicode a b c d cs hhex _ ih =>
    have hplain : ∀ x ∈ [a, b, c, d], ∀ {cs : List Char}, Enclosed hideNewline cs →
        Enclosed hideNewline (x :: cs) := by
      intro x hx cs hcs
      have hquote : x ≠ '"' := by
        rintro rfl
        exact absurd (hhex _ hx) (by decide +kernel)
      have hescape : x ≠ '\\' := by
        rintro rfl
        exact absurd (hhex _ hx) (by decide +kernel)
      exact .plain hquote hescape hcs
    refine .hidden (by simp) ?_
    exact hplain a (by simp) (hplain b (by simp) (hplain c (by simp) (hplain d (by simp) ih)))

namespace Enclosed

/-- The quote after the body of a literal closes it. -/
theorem closesLiteral_append {hideNewline : Bool} {body : List Char} (h : Enclosed hideNewline body)
    (rest : List Char) : closesLiteral hideNewline (body ++ '"' :: rest) = true := by
  induction h with
  | nil => simp [closesLiteral]
  | plain hquote hescape _ ih => simp [closesLiteral, hescape, ih]
  | hidden hnewline _ ih =>
    rw [List.cons_append, List.cons_append, closesLiteral, hnewline, ih, Bool.and_self]

/-- Inside a literal, the first pass keeps everything up to the closing quote. -/
theorem replaceFrom_append {hideNewline : Bool} {body : List Char} (h : Enclosed hideNewline body)
    (rest : List Char) :
    replaceFrom filler .literal (body ++ '"' :: rest) =
      body ++ '"' :: replaceFrom filler .code rest := by
  induction h with
  | nil => simp [replaceFrom]
  | plain hquote hescape _ ih => simp [replaceFrom, hquote, hescape, ih]
  | hidden _ _ ih => simp [replaceFrom, ih]

/-- Inside a literal, the second pass keeps everything up to the closing quote. -/
theorem dropCommasFrom_append {hideNewline : Bool} {body : List Char}
    (h : Enclosed hideNewline body) (rest : List Char) :
    dropCommasFrom .literal (body ++ '"' :: rest) = body ++ '"' :: dropCommasFrom .code rest := by
  induction h with
  | nil => simp [dropCommasFrom]
  | plain hquote hescape _ ih => simp [dropCommasFrom, hquote, hescape, ih]
  | hidden _ _ ih => simp [dropCommasFrom, ih]

end Enclosed

/-! ## Gaps -/

/-- White space holds no other characters. -/
theorem ne_of_mem_whiteChars {c d : Char} (hc : c ∈ whiteChars) (hd : d ∉ whiteChars) : c ≠ d := by
  rintro rfl
  exact hd hc

/-- Outside of literals and comments, the first pass keeps a character that starts neither. -/
theorem replaceFrom_code_cons {c : Char} (hslash : c ≠ '/') (hquote : c ≠ '"') (cs : List Char) :
    replaceFrom filler .code (c :: cs) = c :: replaceFrom filler .code cs := by
  rw [replaceFrom]
  · simp [hquote]
  · intro _ h
    exact absurd h hslash
  · intro _ h
    exact absurd h hslash

/-- A text without quotes and slashes is kept. -/
theorem replaceFrom_code_append {cs : List Char} (h : ∀ c ∈ cs, c ≠ '/' ∧ c ≠ '"')
    (rest : List Char) :
    replaceFrom filler .code (cs ++ rest) = cs ++ replaceFrom filler .code rest := by
  induction cs with
  | nil => rfl
  | cons c cs ih =>
    obtain ⟨hc, hcs⟩ := List.forall_mem_cons.1 h
    rw [List.cons_append, replaceFrom_code_cons hc.1 hc.2, ih hcs, List.cons_append]

/-- White space holds no comments. -/
theorem White.replaceFrom_append {w : List Char} (hw : White w) (rest : List Char) :
    replaceFrom filler .code (w ++ rest) = w ++ replaceFrom filler .code rest := by
  refine replaceFrom_code_append (fun c hc => ?_) rest
  exact ⟨ne_of_mem_whiteChars (hw c hc) (by decide), ne_of_mem_whiteChars (hw c hc) (by decide)⟩

/-- A comment is skipped up to the end of its line. -/
theorem replaceFrom_line_append {text : List Char} (h : '\n' ∉ text) (rest : List Char) :
    replaceFrom filler .line (text ++ rest) = replaceFrom filler .line rest := by
  induction text with
  | nil => rfl
  | cons c text ih =>
    obtain ⟨hc, htext⟩ := not_or.1 (mt List.mem_cons.2 h)
    have hc' : (c == '\n') = false := by simpa using fun e => hc e.symm
    simp [replaceFrom, hc', ih htext]

/-- The mark that ends a block comment is found. -/
theorem closesBlock_append (text rest : List Char) :
    closesBlock (text ++ '*' :: '/' :: rest) = true := by
  induction text with
  | nil => rfl
  | cons c text ih =>
    rw [List.cons_append]
    unfold closesBlock
    split
    · contradiction
    · rfl
    · rename_i h
      obtain ⟨-, rfl⟩ := List.cons.inj h
      exact ih

/-- A block comment is skipped up to the first mark that ends it. -/
theorem replaceFrom_block_append {text : List Char} (h : ¬ ['*', '/'] <:+: text)
    (rest : List Char) :
    replaceFrom filler .block (text ++ '*' :: '/' :: rest) = replaceFrom filler .code rest := by
  induction text with
  | nil => simp [replaceFrom]
  | cons c text ih =>
    have htext : ¬ ['*', '/'] <:+: text :=
      fun hin => h (hin.trans (List.suffix_cons c text).isInfix)
    rw [List.cons_append, replaceFrom, ih htext]
    -- The end of the comment does not start with `c`, not even if `c` is the last character.
    intro cs hc hcs
    cases text with
    | nil => simp at hcs
    | cons d text =>
      obtain ⟨rfl, -⟩ := List.cons.inj hcs
      exact h (hc ▸ ⟨[], text, rfl⟩)

/-- A gap turns into white space. -/
theorem Gap.replaceFrom_append {g : List Char} (hg : Gap g) (hfiller : White filler) :
    ∃ w, White w ∧
      ∀ rest, replaceFrom filler .code (g ++ rest) = w ++ replaceFrom filler .code rest := by
  induction hg with
  | nil => exact ⟨[], by simp [White], fun _ => rfl⟩
  | @white c g hc _ ih =>
    obtain ⟨w, hw, hg⟩ := ih
    refine ⟨c :: w, List.forall_mem_cons.2 ⟨hc, hw⟩, fun rest => ?_⟩
    have hslash : c ≠ '/' := ne_of_mem_whiteChars hc (by decide)
    have hquote : c ≠ '"' := ne_of_mem_whiteChars hc (by decide)
    rw [List.cons_append, replaceFrom_code_cons hslash hquote, hg, List.cons_append]
  | @line text g htext _ ih =>
    obtain ⟨w, hw, hg⟩ := ih
    refine ⟨filler ++ '\n' :: w, ?_, fun rest => ?_⟩
    · exact List.forall_mem_append.2 ⟨hfiller, List.forall_mem_cons.2 ⟨by decide, hw⟩⟩
    · simp [replaceFrom, replaceFrom_line_append htext, hg]
  | @block text g htext _ ih =>
    obtain ⟨w, hw, hg⟩ := ih
    refine ⟨filler ++ w, List.forall_mem_append.2 ⟨hfiller, hw⟩, fun rest => ?_⟩
    simp [replaceFrom, closesBlock_append, replaceFrom_block_append htext, hg]

/-- The gap at the end turns into white space. -/
theorem LastGap.white_replaceFrom {g : List Char} (hg : LastGap g) (hfiller : White filler) :
    White (replaceFrom filler .code g) := by
  cases hg with
  | gap hg =>
    obtain ⟨w, hw, h⟩ := hg.replaceFrom_append hfiller
    have hnil := h []
    rw [List.append_nil, replaceFrom, List.append_nil] at hnil
    rwa [hnil]
  | @line g text hg htext =>
    obtain ⟨w, hw, h⟩ := hg.replaceFrom_append hfiller
    have hline : replaceFrom filler .line (text ++ []) = replaceFrom filler .line [] :=
      replaceFrom_line_append htext []
    rw [List.append_nil] at hline
    rw [h, replaceFrom, hline, replaceFrom, List.append_nil]
    exact List.forall_mem_append.2 ⟨hw, hfiller⟩

/-! ## Lexemes -/

/-- The first pass keeps a lexeme. -/
theorem Lexeme.Valid.replaceFrom_append {t : Lexeme} (ht : t.Valid) (rest : List Char) :
    replaceFrom filler .code (t.text ++ rest) = t.text ++ replaceFrom filler .code rest := by
  cases t with
  | literal body =>
    have hbody : Enclosed true body := LiteralBody.enclosed ht true
    simp only [Lexeme.text, List.cons_append, List.append_assoc, List.nil_append]
    simp [replaceFrom, hbody.closesLiteral_append, hbody.replaceFrom_append]
  | bare text =>
    refine replaceFrom_code_append (fun c hc => ?_) rest
    have hbare := BareText.isBareChar ht c hc
    exact ⟨ne_of_isBareChar hbare (by decide), ne_of_isBareChar hbare (by decide)⟩
  | openList | closeList | openObject | closeObject | colon | comma =>
    exact replaceFrom_code_append (by simp [Lexeme.text]) rest

/-- The second pass keeps a character that is neither a comma nor a quote. -/
theorem dropCommasFrom_code_cons {c : Char} (hcomma : c ≠ ',') (hquote : c ≠ '"')
    (cs : List Char) : dropCommasFrom .code (c :: cs) = c :: dropCommasFrom .code cs := by
  simp [dropCommasFrom, hcomma, hquote]

/-- A text without quotes and commas is kept. -/
theorem dropCommasFrom_code_append {cs : List Char} (h : ∀ c ∈ cs, c ≠ ',' ∧ c ≠ '"')
    (rest : List Char) : dropCommasFrom .code (cs ++ rest) = cs ++ dropCommasFrom .code rest := by
  induction cs with
  | nil => rfl
  | cons c cs ih =>
    obtain ⟨hc, hcs⟩ := List.forall_mem_cons.1 h
    rw [List.cons_append, dropCommasFrom_code_cons hc.1 hc.2, ih hcs, List.cons_append]

/-- White space is kept. -/
theorem White.dropCommasFrom_append {w : List Char} (hw : White w) (rest : List Char) :
    dropCommasFrom .code (w ++ rest) = w ++ dropCommasFrom .code rest := by
  refine dropCommasFrom_code_append (fun c hc => ?_) rest
  exact ⟨ne_of_mem_whiteChars (hw c hc) (by decide), ne_of_mem_whiteChars (hw c hc) (by decide)⟩

/-- The second pass keeps every lexeme but the comma. -/
theorem Lexeme.Valid.dropCommasFrom_append {t : Lexeme} (ht : t.Valid) (hcomma : t ≠ .comma)
    (rest : List Char) :
    dropCommasFrom .code (t.text ++ rest) = t.text ++ dropCommasFrom .code rest := by
  cases t with
  | literal body =>
    have hbody : Enclosed false body := LiteralBody.enclosed ht false
    simp only [Lexeme.text, List.cons_append, List.append_assoc, List.nil_append]
    simp [dropCommasFrom, hbody.closesLiteral_append, hbody.dropCommasFrom_append]
  | bare text =>
    refine dropCommasFrom_code_append (fun c hc => ?_) rest
    have hbare := BareText.isBareChar ht c hc
    exact ⟨ne_of_isBareChar hbare (by decide), ne_of_isBareChar hbare (by decide)⟩
  | comma => exact absurd rfl hcomma
  | openList | closeList | openObject | closeObject | colon =>
    exact dropCommasFrom_code_append (by simp [Lexeme.text]) rest

/-- White space is skipped in search of a closing bracket. -/
theorem White.closesNext_append {w : List Char} (hw : White w) (rest : List Char) :
    closesNext (w ++ rest) = closesNext rest := by
  have hskip : (w ++ rest).dropWhile Text.isBlank = rest.dropWhile Text.isBlank :=
    List.dropWhile_append_of_pos fun c hc => isBlank_of_mem_whiteChars (hw c hc)
  rw [closesNext, closesNext, hskip]

/-- A closing bracket is found exactly before the lexemes that are one. -/
theorem Lexeme.Valid.closesNext_append {t : Lexeme} (ht : t.Valid) (rest : List Char) :
    closesNext (t.text ++ rest) = t.isClosing := by
  obtain ⟨c, cs, htext, hblank, hclosing⟩ := ht.exists_text_eq
  simp [closesNext, htext, hblank, ← hclosing]

/-! ## Texts -/

/-- The first pass turns the gaps of a text into white space and leaves the rest alone. -/
theorem Loose.replace {ts : List Lexeme} {body : List Char} (h : Loose Gap ts body)
    (hts : ∀ t ∈ ts, t.Valid) (hfiller : White filler) :
    ∃ body', Loose White ts body' ∧
      ∀ rest, replaceFrom filler .code (body ++ rest) = body' ++ replaceFrom filler .code rest := by
  induction h with
  | nil => exact ⟨[], .nil, fun _ => rfl⟩
  | lexeme hg _ ih =>
    obtain ⟨ht, hts⟩ := List.forall_mem_cons.1 hts
    obtain ⟨w, hw, hreplace⟩ := hg.replaceFrom_append hfiller
    obtain ⟨body', hbody', ih⟩ := ih hts
    refine ⟨_, .lexeme hw hbody', fun rest => ?_⟩
    simp only [List.append_assoc]
    rw [hreplace, ht.replaceFrom_append, ih]
  | comma hclosing hg hg' _ ih =>
    obtain ⟨ht, hts⟩ := List.forall_mem_cons.1 hts
    obtain ⟨w, hw, hreplace⟩ := hg.replaceFrom_append hfiller
    obtain ⟨w', hw', hreplace'⟩ := hg'.replaceFrom_append hfiller
    obtain ⟨body', hbody', ih⟩ := ih hts
    refine ⟨_, .comma hclosing hw hw' hbody', fun rest => ?_⟩
    simp only [List.append_assoc, List.cons_append]
    rw [hreplace, replaceFrom_code_cons (by decide) (by decide), hreplace', ht.replaceFrom_append,
      ih]

/-- The first pass leaves a text with white space in all gaps. -/
theorem LaidOut.replace {ts : List Lexeme} {text : List Char} (h : LaidOut Gap LastGap ts text)
    (hts : ∀ t ∈ ts, t.Valid) (hfiller : White filler) :
    LaidOut White White ts (replaceFrom filler .code text) := by
  obtain ⟨body, last, hbody, hlast, rfl⟩ := h
  obtain ⟨body', hbody', hreplace⟩ := hbody.replace hts hfiller
  exact ⟨body', _, hbody', hlast.white_replaceFrom hfiller, hreplace last⟩

theorem LaidOut.remove {ts : List Lexeme} {text : List Char} (h : LaidOut Gap LastGap ts text)
    (hts : ∀ t ∈ ts, t.Valid) : LaidOut White White ts (Comments.remove text) := by
  rw [Comments.remove, ← replaceFrom_nil]
  exact h.replace hts (by simp [White])

/-- Before a lexeme that closes nothing, no bracket is found. -/
theorem Loose.closesNext_append {t : Lexeme} {ts : List Lexeme} {body : List Char}
    (h : Loose White (t :: ts) body) (ht : t.Valid) (hopen : t.isClosing = false)
    (rest : List Char) : closesNext (body ++ rest) = false := by
  cases h with
  | lexeme hg h =>
    simp only [List.append_assoc]
    rw [hg.closesNext_append, ht.closesNext_append, hopen]
  | comma hclosing =>
    rw [hopen] at hclosing
    contradiction

/-- What is left of a sequence has its commas between elements too. -/
theorem Separated.tail {t : Lexeme} {ts : List Lexeme} (h : Separated (t :: ts)) :
    Separated ts := by
  cases h with
  | comma _ h => exact h
  | other _ h => exact h

/-- The second pass keeps the lexemes of a sequence, the commas that the grammar asks for among
them: what follows such a comma closes nothing. -/
theorem Separated.dropCommasFrom_append {t : Lexeme} {ts : List Lexeme} {g text : List Char}
    (hsep : Separated (t :: ts)) (hts : ∀ u ∈ t :: ts, u.Valid) (hg : White g)
    (h : Loose White ts text) (last : List Char) :
    dropCommasFrom .code (g ++ (t.text ++ (text ++ last))) =
      g ++ (t.text ++ dropCommasFrom .code (text ++ last)) := by
  obtain ⟨ht, htail⟩ := List.forall_mem_cons.1 hts
  rw [hg.dropCommasFrom_append]
  cases hsep with
  | @comma u ts hu _ =>
    have hopen := h.closesNext_append (htail u (by simp)) hu last
    rw [Lexeme.text, List.cons_append, List.nil_append]
    simp [dropCommasFrom, hopen]
  | other hcomma _ => rw [ht.dropCommasFrom_append hcomma]

/-- The second pass removes the extra commas of a text and leaves the rest alone. -/
theorem Loose.dropCommas {ts : List Lexeme} {body last : List Char} (h : Loose White ts body)
    (hts : ∀ t ∈ ts, t.Valid) (hsep : Separated ts) (hlast : White last) :
    ∃ body', Spaced ts body' ∧ dropCommasFrom .code (body ++ last) = body' ++ last := by
  induction h with
  | nil =>
    refine ⟨[], .nil, ?_⟩
    have hnil := hlast.dropCommasFrom_append []
    rwa [List.append_nil, dropCommasFrom, List.append_nil] at hnil
  | @lexeme t ts g text hg h ih =>
    obtain ⟨body', hbody', ih⟩ := ih (List.forall_mem_cons.1 hts).2 hsep.tail
    refine ⟨_, .cons hg hbody', ?_⟩
    simp only [List.append_assoc]
    rw [hsep.dropCommasFrom_append hts hg h, ih]
  | @comma t ts g g' text hclosing hg hg' h ih =>
    -- The extra comma stands before a closing bracket: it goes, and its two gaps become one.
    obtain ⟨ht, htail⟩ := List.forall_mem_cons.1 hts
    have hcomma : t ≠ .comma := by
      rintro rfl
      contradiction
    obtain ⟨body', hbody', ih⟩ := ih htail hsep.tail
    refine ⟨(g ++ g') ++ (t.text ++ body'), .cons (List.forall_mem_append.2 ⟨hg, hg'⟩) hbody', ?_⟩
    have hclose : closesNext (g' ++ (t.text ++ (text ++ last))) = true := by
      rw [hg'.closesNext_append, ht.closesNext_append, hclosing]
    simp only [List.append_assoc, List.cons_append]
    rw [hg.dropCommasFrom_append, dropCommasFrom]
    · simp only [beq_self_eq_true, hclose, Bool.and_self, if_true]
      rw [hg'.dropCommasFrom_append, ht.dropCommasFrom_append hcomma, ih]
    · simp
    · simp

/-- The second pass leaves a plain text of the same lexemes. -/
theorem LaidOut.writes_dropCommas {p : Phrase} {ts : List Lexeme} {text : List Char}
    (h : LaidOut White White ts text) (hts : Derives p ts) :
    Writes ts (Comments.dropCommas text) := by
  obtain ⟨body, last, hbody, hlast, rfl⟩ := h
  obtain ⟨body', hbody', hdrop⟩ := hbody.dropCommas hts.valid hts.separated hlast
  exact ⟨body', last, hbody', hlast, hdrop⟩

/-- A decorated text becomes a plain text of the same lexemes. -/
theorem Decorates.writes_strip {p : Phrase} {ts : List Lexeme} {text : List Char}
    (hts : Derives p ts) (h : Decorates ts text) :
    Writes ts (Comments.dropCommas (Comments.remove text)) :=
  (h.laidOut.remove hts.valid).writes_dropCommas hts

end FenceLint.Json
