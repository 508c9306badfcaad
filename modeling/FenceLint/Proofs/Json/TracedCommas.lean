import FenceLint.Proofs.Json.Passes
import Mathlib.Data.List.TakeWhile

/-!
# Where plain texts come from

The second pass removes the commas that stand before a closing bracket, with blanks between them.
So a plain text that it leaves comes from a text with the same lexemes and white space between them,
and with extra commas before some closing brackets (`Writes.laidOut_of_dropCommas`).  The pass knows
more blanks than the white space of JSON, but a plain text has none of these.
-/

namespace FenceLint.Json

open Comments

/-! ## Extra commas -/

/-- A comma before a closing bracket, with blanks between them. -/
inductive ExtraComma : List Char → List Char → List Char → Prop where
  | mk {blanks : List Char} {c : Char} {cs : List Char}
      (hblanks : ∀ b ∈ blanks, Text.isBlank b = true) (hc : c = '}' ∨ c = ']') :
      ExtraComma (',' :: (blanks ++ [c])) (blanks ++ [c]) cs

/-- A bracket that is found stands after blanks. -/
theorem exists_of_closesNext {cs : List Char} (h : closesNext cs = true) :
    ∃ blanks c rest, (∀ b ∈ blanks, Text.isBlank b = true) ∧ (c = '}' ∨ c = ']') ∧
      cs = blanks ++ c :: rest := by
  unfold closesNext at h
  split at h
  · contradiction
  · next c rest hdrop =>
    refine ⟨cs.takeWhile Text.isBlank, c, rest, fun b hb => List.mem_takeWhile_imp hb, ?_, ?_⟩
    · simpa using h
    · rw [← hdrop, List.takeWhile_append_dropWhile]

/-- The characters that a closing bracket and the blanks before it are made of. -/
def isClosure (c : Char) : Prop := Text.isBlank c = true ∨ c = '}' ∨ c = ']'

theorem isClosure.ne {c : Char} (hc : isClosure c) : c ≠ ',' ∧ c ≠ '"' ∧ c ≠ '\\' := by
  refine ⟨?_, ?_, ?_⟩ <;>
  · rintro rfl
    exact absurd hc (by unfold isClosure; decide)

theorem isClosure_of_mem {blanks : List Char} {b : Char}
    (hblanks : ∀ c ∈ blanks, Text.isBlank c = true) (hb : b = '}' ∨ b = ']') :
    ∀ c ∈ blanks ++ [b], isClosure c := by
  intro c hc
  rcases List.mem_append.1 hc with hc | hc
  · exact .inl (hblanks c hc)
  · rw [List.mem_singleton.1 hc]
    exact .inr hb

/-- How the second pass goes through a text. -/
abbrev DropsCommas : List Char → List Char → Prop := Rewrites false (fun _ _ => True) ExtraComma

/-- The second pass removes extra commas and nothing else. -/
theorem dropsCommas_dropCommasFrom : ∀ cs : List Char, DropsCommas cs (dropCommasFrom .code cs)
  | [] => .nil
  | c :: cs => by
    by_cases hextra : c = ',' ∧ closesNext cs = true
    · obtain ⟨rfl, hclose⟩ := hextra
      obtain ⟨blanks, b, rest, hblanks, hb, rfl⟩ := exists_of_closesNext hclose
      have hkeep : ∀ c ∈ blanks ++ [b], c ≠ ',' ∧ c ≠ '"' := by
        intro c hc
        obtain ⟨hcomma, hquote, -⟩ := (isClosure_of_mem hblanks hb c hc).ne
        exact ⟨hcomma, hquote⟩
      have hdrop := dropCommasFrom_code_append hkeep rest
      have hout : dropCommasFrom .code (',' :: (blanks ++ b :: rest)) =
          (blanks ++ [b]) ++ dropCommasFrom .code rest := by
        rw [dropCommasFrom, hclose, ← hdrop, List.append_assoc]
        · rfl
        · simp
        · simp
      rw [hout]
      have htail := Rewrites.piece (.mk hblanks hb) (dropsCommas_dropCommasFrom rest)
      simpa using htail
    · have hstep : dropCommasFrom .code (c :: cs) = c ::
          dropCommasFrom (if c == '"' && closesLiteral false cs then .literal else .code) cs := by
        rw [dropCommasFrom, if_neg]
        · simpa using hextra
        · simp
        · simp
      rw [hstep]
      by_cases hliteral : c = '"' ∧ closesLiteral false cs = true
      · obtain ⟨rfl, hcloses⟩ := hliteral
        obtain ⟨body, rest, hbody, rfl⟩ := exists_enclosed hcloses
        rw [if_pos (by simpa using hcloses), hbody.dropCommasFrom_append]
        exact .literal hbody (dropsCommas_dropCommasFrom rest)
      · rw [if_neg (by simpa using hliteral)]
        refine .kept trivial (fun hc => ?_) (dropsCommas_dropCommasFrom cs)
        simpa [hc] using hliteral
termination_by cs => cs.length

theorem tame_extraComma : Tame false ExtraComma isClosure where
  starts := by
    rintro _ _ cs ⟨hblanks, hc⟩
    obtain ⟨d, rest, hleft⟩ := List.exists_cons_of_ne_nil (List.concat_ne_nil _ _)
    exact ⟨d, rest, hleft, isClosure_of_mem hblanks hc d (by simp [hleft])⟩
  neutral := by
    rintro _ _ cs out hidden @⟨blanks, c, _, hblanks, hc⟩ h hout
    have hplain : ∀ d ∈ blanks ++ [c], d ≠ '"' ∧ d ≠ '\\' :=
      fun d hd => (isClosure_of_mem hblanks hc d hd).ne.2
    have hcs : closesFrom false false ((blanks ++ [c]) ++ cs) = false := by
      simpa using (Bool.or_eq_false_iff.1 h).2
    rw [closesFrom_append hplain] at hcs
    -- Whether or not the comma was hidden, the bracket and the blanks before it close nothing.
    obtain ⟨d, rest, hleft⟩ := List.exists_cons_of_ne_nil (List.concat_ne_nil c blanks)
    rw [hleft] at hplain ⊢
    obtain ⟨hd, hrest⟩ := List.forall_mem_cons.1 hplain
    refine closesFrom_cons_eq_false hd ?_
    rw [List.append_eq, closesFrom_append hrest]
    exact hout hcs

/-! ## Lexemes -/

/-- A text is cut in one way at the first character that is not blank. -/
theorem append_cons_inj_of_blank {xs ys rest rest' : List Char} {c d : Char}
    (hxs : ∀ x ∈ xs, Text.isBlank x = true) (hys : ∀ y ∈ ys, Text.isBlank y = true)
    (hc : Text.isBlank c = false) (hd : Text.isBlank d = false)
    (h : xs ++ c :: rest = ys ++ d :: rest') : xs = ys ∧ c = d ∧ rest = rest' := by
  have hcut : ∀ {xs rest : List Char} {c : Char}, (∀ x ∈ xs, Text.isBlank x = true) →
      Text.isBlank c = false → (xs ++ c :: rest).takeWhile Text.isBlank = xs := by
    intro xs rest c hxs hc
    rw [List.takeWhile_append_of_pos hxs, List.takeWhile_cons_of_neg (by simp [hc]),
      List.append_nil]
  have hleft := congrArg (List.takeWhile Text.isBlank) h
  rw [hcut hxs hc, hcut hys hd] at hleft
  subst hleft
  obtain ⟨rfl, rfl⟩ := List.cons.inj (List.append_cancel_left h)
  exact ⟨rfl, rfl, rfl⟩

theorem White.isBlank {w : List Char} (hw : White w) : ∀ c ∈ w, Text.isBlank c = true :=
  fun c hc => isBlank_of_mem_whiteChars (hw c hc)

/-- What is left of an extra comma ends with a closing bracket. -/
theorem ExtraComma.exists_of_append {piece left cs out out' w : List Char} {t : Lexeme}
    (h : ExtraComma piece left cs) (hw : White w) (ht : t.Valid)
    (heq : left ++ out' = w ++ (t.text ++ out)) :
    t.isClosing = true ∧ piece = ',' :: (w ++ t.text) ∧ out' = out := by
  obtain @⟨blanks, c, _, hblanks, hc⟩ := h
  obtain ⟨d, ds, htext, hblank, hclosing⟩ := ht.exists_text_eq
  have hvisible : Text.isBlank c = false := by
    rcases hc with rfl | rfl <;> decide
  rw [htext, List.append_assoc, List.singleton_append, List.cons_append] at heq
  obtain ⟨rfl, rfl, rfl⟩ := append_cons_inj_of_blank hblanks hw.isBlank hvisible hblank heq
  have hclosing : t.isClosing = true := by
    rw [← hclosing]
    simpa using hc
  cases t with
  | closeList | closeObject =>
    obtain ⟨rfl, rfl⟩ := List.cons.inj htext
    exact ⟨rfl, rfl, rfl⟩
  | literal | bare | openList | openObject | colon | comma => contradiction

theorem not_isClosure_of_isBareChar {c : Char} (hc : isBareChar c = true) : ¬ isClosure c := by
  rintro (hblank | rfl | rfl)
  · rw [not_isBlank_of_isBareChar hc] at hblank
    contradiction
  · exact absurd hc (by decide)
  · exact absurd hc (by decide)

/-- Only closing lexemes start like a closing bracket. -/
theorem Lexeme.Valid.not_isClosure {t : Lexeme} (ht : t.Valid) (hopen : t.isClosing = false) :
    ∀ c ∈ t.text.head?, ¬ isClosure c := by
  obtain ⟨d, ds, htext, hblank, hclosing⟩ := ht.exists_text_eq
  intro c hc
  obtain rfl : d = c := by simpa [htext] using hc
  have hbracket : ¬ (d = '}' ∨ d = ']') := by simpa [hopen] using hclosing
  rintro (hd | hd)
  · rw [hblank] at hd
    contradiction
  · exact hbracket hd

namespace DropsCommas

variable {cs out : List Char} {t : Lexeme}

/-- A lexeme comes from itself, or from itself after an extra comma. -/
theorem exists_of_lexeme (ht : t.Valid) (h : DropsCommas cs (t.text ++ out)) :
    ∃ cs', DropsCommas cs' out ∧
      (cs = t.text ++ cs' ∨ t.isClosing = true ∧ cs = ',' :: (t.text ++ cs')) := by
  cases hopen : t.isClosing with
  | false =>
    obtain ⟨cs', hcs, h'⟩ := Rewrites.exists_of_lexeme ht h tame_extraComma
      (ht.not_isClosure hopen) fun _ => not_isClosure_of_isBareChar
    exact ⟨cs', h', .inl hcs⟩
  | true =>
    obtain ⟨c, hc, htext⟩ : ∃ c, c ≠ '"' ∧ t.text = [c] := by
      cases t with
      | closeList | closeObject => exact ⟨_, by decide, rfl⟩
      | literal | bare | openList | openObject | colon | comma => contradiction
    generalize hout : t.text ++ out = out' at h
    cases h with
    | nil => simp [htext] at hout
    | kept _ _ h =>
      rw [htext] at hout
      obtain ⟨rfl, rfl⟩ := List.cons.inj hout
      exact ⟨_, h, .inl (by rw [htext]; rfl)⟩
    | literal =>
      rw [htext] at hout
      exact absurd (List.cons.inj hout).1 hc
    | piece hpiece h =>
      have hnil : White [] := by simp [White]
      obtain ⟨-, rfl, rfl⟩ := hpiece.exists_of_append hnil ht hout.symm
      exact ⟨_, h, .inr ⟨rfl, rfl⟩⟩

/-- A lexeme with white space before it comes from one with white space before it, and possibly an
extra comma. -/
theorem exists_of_white_append {w : List Char} (hw : White w) (ht : t.Valid)
    (h : DropsCommas cs (w ++ (t.text ++ out))) :
    ∃ cs', DropsCommas cs' out ∧ (cs = w ++ (t.text ++ cs') ∨ t.isClosing = true ∧
      ∃ w₁ w₂, White w₁ ∧ White w₂ ∧ cs = w₁ ++ ',' :: (w₂ ++ (t.text ++ cs'))) := by
  induction w generalizing cs with
  | nil =>
    obtain ⟨cs', h', hcs | ⟨hclosing, hcs⟩⟩ := exists_of_lexeme ht h
    · exact ⟨cs', h', .inl hcs⟩
    · exact ⟨cs', h', .inr ⟨hclosing, [], [], hw, hw, hcs⟩⟩
  | cons c w ih =>
    obtain ⟨hc, hw'⟩ := List.forall_mem_cons.1 hw
    generalize hout : c :: w ++ (t.text ++ out) = out' at h
    cases h with
    | nil => contradiction
    | kept _ _ h =>
      obtain ⟨rfl, rfl⟩ := List.cons.inj hout
      obtain ⟨cs', h', rfl | ⟨hclosing, w₁, w₂, hw₁, hw₂, rfl⟩⟩ := ih hw' h
      · exact ⟨cs', h', .inl rfl⟩
      · exact ⟨cs', h', .inr ⟨hclosing, c :: w₁, w₂, List.forall_mem_cons.2 ⟨hc, hw₁⟩, hw₂, rfl⟩⟩
    | literal =>
      obtain ⟨rfl, -⟩ := List.cons.inj hout
      exact absurd hc (by decide)
    | piece hpiece h =>
      obtain ⟨hclosing, rfl, rfl⟩ := hpiece.exists_of_append hw ht hout.symm
      refine ⟨_, h, .inr ⟨hclosing, [], c :: w, by simp [White], hw, ?_⟩⟩
      simp

/-- White space comes from itself. -/
theorem eq_of_white (h : DropsCommas cs out) (hout : White out) : cs = out := by
  induction h with
  | nil => rfl
  | kept _ _ _ ih => rw [ih (List.forall_mem_cons.1 hout).2]
  | literal => exact absurd (hout '"' (by simp)) (by decide)
  | piece hpiece =>
    obtain @⟨blanks, c, _, hblanks, hc⟩ := hpiece
    have hwhite := hout c (by simp)
    rcases hc with rfl | rfl
    · exact absurd hwhite (by decide)
    · exact absurd hwhite (by decide)

end DropsCommas

/-! ## Texts -/

/-- A plain text comes from one with extra commas. -/
theorem Spaced.exists_loose {ts : List Lexeme} {body cs out : List Char} (h : Spaced ts body)
    (hts : ∀ t ∈ ts, t.Valid) (hdrops : DropsCommas cs (body ++ out)) :
    ∃ body' cs', Loose White ts body' ∧ cs = body' ++ cs' ∧ DropsCommas cs' out := by
  induction h generalizing cs with
  | nil => exact ⟨[], cs, .nil, rfl, hdrops⟩
  | cons hw _ ih =>
    obtain ⟨ht, hts⟩ := List.forall_mem_cons.1 hts
    rw [List.append_assoc, List.append_assoc] at hdrops
    obtain ⟨cs', h', hcs⟩ := DropsCommas.exists_of_white_append hw ht hdrops
    obtain ⟨body', cs'', hbody', rfl, hdrops'⟩ := ih hts h'
    rcases hcs with rfl | ⟨hclosing, w₁, w₂, hw₁, hw₂, rfl⟩
    · exact ⟨_, cs'', .lexeme hw hbody', by simp, hdrops'⟩
    · exact ⟨_, cs'', .comma hclosing hw₁ hw₂ hbody', by simp, hdrops'⟩

/-- What the second pass makes a plain text was one but for extra commas. -/
theorem Writes.laidOut_of_dropCommas {ts : List Lexeme} {cs : List Char}
    (h : Writes ts (Comments.dropCommas cs)) (hts : ∀ t ∈ ts, t.Valid) :
    LaidOut White White ts cs := by
  obtain ⟨body, last, hbody, hlast, hcs⟩ := h
  have hdrops : DropsCommas cs (body ++ last) := hcs ▸ dropsCommas_dropCommasFrom cs
  obtain ⟨body', cs', hbody', rfl, hdrops'⟩ := hbody.exists_loose hts hdrops
  exact ⟨body', cs', hbody', hdrops'.eq_of_white hlast ▸ hlast, rfl⟩

end FenceLint.Json
