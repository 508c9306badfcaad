import FenceLint.Proofs.Json.Comments

/-!
# How the passes go through a text

Both passes go through a text in the same way: they keep literals whole and other characters one by
one, and put something else in the place of some pieces of the text (`Rewrites`).  So what is left
by a pass tells where it came from: a lexeme that is found in it was there before, unless it comes
from a piece.

The one thing that could go wrong are quotes.  A quote that opens no literal must not open one after
the pass, although the text behind it changes (`Rewrites.closesLiteral_eq_false`).
-/

namespace FenceLint.Json

open Comments

/-! ## Closing quotes -/

/-- The text holds the closing quote of a literal; `hidden` tells whether a backslash stands right
before the text. -/
def closesFrom (hideNewline hidden : Bool) : List Char → Bool
  | [] => false
  | c :: cs =>
    !hidden && c == '"' ||
      (hideNewline || !hidden || c != '\n') && closesFrom hideNewline (!hidden && c == '\\') cs

theorem closesLiteral_eq (hideNewline : Bool) (cs : List Char) :
    closesLiteral hideNewline cs = closesFrom hideNewline false cs := by
  fun_induction closesLiteral hideNewline cs with
  | case1 => rfl
  | case2 c cs ih => simp [closesFrom, ih]
  | case3 => simp [closesFrom]
  | case4 c cs hescape hend ih =>
    have hc : (c == '\\') = false := by
      rw [beq_eq_false_iff_ne]
      rintro rfl
      cases cs with
      | nil => exact hend rfl rfl
      | cons d cs => exact hescape d cs rfl rfl
    simp [closesFrom, hc, ih]

/-- Behind a character that is neither a quote nor a backslash, the text is as before. -/
theorem closesFrom_cons_eq_false {hideNewline hidden : Bool} {c : Char} {cs : List Char}
    (hc : c ≠ '"' ∧ c ≠ '\\') (h : closesFrom hideNewline false cs = false) :
    closesFrom hideNewline hidden (c :: cs) = false := by
  simp [closesFrom, beq_false_of_ne hc.1, beq_false_of_ne hc.2, h]

theorem closesFrom_append {hideNewline : Bool} {text : List Char}
    (htext : ∀ c ∈ text, c ≠ '"' ∧ c ≠ '\\') (rest : List Char) :
    closesFrom hideNewline false (text ++ rest) = closesFrom hideNewline false rest := by
  induction text with
  | nil => rfl
  | cons c text ih =>
    obtain ⟨hc, htext⟩ := List.forall_mem_cons.1 htext
    simp [closesFrom, beq_false_of_ne hc.1, beq_false_of_ne hc.2, ih htext]

/-- If no quote closes a literal, none does so later on. -/
theorem closesFrom_of_append {hidden : Bool} {text rest : List Char} {c : Char} (hc : c ≠ '\\')
    (h : closesFrom true hidden (text ++ c :: rest) = false) :
    closesFrom true false rest = false := by
  induction text generalizing hidden with
  | nil => simpa [beq_false_of_ne hc] using (Bool.or_eq_false_iff.1 h).2
  | cons d text ih =>
    have htail := (Bool.or_eq_false_iff.1 h).2
    simp only [Bool.true_or, Bool.true_and] at htail
    exact ih htail

/-- A literal that is closed has a body. -/
theorem exists_enclosed {hideNewline : Bool} {cs : List Char}
    (h : closesLiteral hideNewline cs = true) :
    ∃ body rest, Enclosed hideNewline body ∧ cs = body ++ '"' :: rest := by
  fun_induction closesLiteral hideNewline cs with
  | case1 => contradiction
  | case2 c cs ih =>
    obtain ⟨hnewline, hcs⟩ := Bool.and_eq_true_iff.1 h
    obtain ⟨body, rest, hbody, rfl⟩ := ih hcs
    exact ⟨_, rest, .hidden hnewline hbody, rfl⟩
  | case3 => contradiction
  | case4 c cs hescape hend ih =>
    by_cases hquote : c = '"'
    · exact ⟨[], cs, .nil, by rw [hquote]; rfl⟩
    · have hcs : closesLiteral hideNewline cs = true := by simpa [hquote] using h
      obtain ⟨body, rest, hbody, rfl⟩ := ih hcs
      have hc : c ≠ '\\' := by
        intro hc
        cases hbody with
        | nil => exact hescape _ _ hc rfl
        | plain | hidden => exact hescape _ _ hc rfl
      exact ⟨_, rest, .plain hquote hc hbody, rfl⟩

/-- A literal has one body. -/
theorem Enclosed.append_inj {a b : Bool} {body body' rest rest' : List Char} (h : Enclosed a body)
    (h' : Enclosed b body') (heq : body ++ '"' :: rest = body' ++ '"' :: rest') :
    body = body' ∧ rest = rest' := by
  induction h generalizing body' with
  | nil =>
    cases h' with
    | nil => simpa using heq
    | plain hquote => exact absurd (List.cons.inj heq).1.symm hquote
    | hidden => simp at heq
  | plain hquote hescape _ ih =>
    cases h' with
    | nil => exact absurd (List.cons.inj heq).1 hquote
    | plain _ _ h' =>
      obtain ⟨rfl, htail⟩ := List.cons.inj heq
      obtain ⟨rfl, rfl⟩ := ih h' htail
      exact ⟨rfl, rfl⟩
    | hidden => exact absurd (List.cons.inj heq).1 hescape
  | hidden _ _ ih =>
    cases h' with
    | nil => simp at heq
    | plain _ hescape => exact absurd (List.cons.inj heq).1.symm hescape
    | hidden _ h' =>
      obtain ⟨rfl, htail⟩ := List.cons.inj (List.cons.inj heq).2
      obtain ⟨rfl, rfl⟩ := ih h' htail
      exact ⟨rfl, rfl⟩

/-! ## Passes -/

/-- How a pass goes through a text.  `Keep` says when a character outside of literals is kept before
a text, and `Piece` what is put in the place of a piece before a text. -/
inductive Rewrites (hideNewline : Bool) (Keep : Char → List Char → Prop)
    (Piece : List Char → List Char → List Char → Prop) : List Char → List Char → Prop where
  | nil : Rewrites hideNewline Keep Piece [] []
  | kept {c : Char} {cs out : List Char} (hkeep : Keep c cs)
      (hquote : c = '"' → closesLiteral hideNewline cs = false)
      (h : Rewrites hideNewline Keep Piece cs out) :
      Rewrites hideNewline Keep Piece (c :: cs) (c :: out)
  | literal {body cs out : List Char} (hbody : Enclosed hideNewline body)
      (h : Rewrites hideNewline Keep Piece cs out) :
      Rewrites hideNewline Keep Piece ('"' :: (body ++ '"' :: cs)) ('"' :: (body ++ '"' :: out))
  | piece {piece left cs out : List Char} (hpiece : Piece piece left cs)
      (h : Rewrites hideNewline Keep Piece cs out) :
      Rewrites hideNewline Keep Piece (piece ++ cs) (left ++ out)

/-- What is put in the place of pieces starts with one of some characters, and it closes no quote
that the piece leaves open. -/
structure Tame (hideNewline : Bool) (Piece : List Char → List Char → List Char → Prop)
    (First : Char → Prop) : Prop where
  starts : ∀ {piece left cs}, Piece piece left cs → ∃ c rest, left = c :: rest ∧ First c
  neutral : ∀ {piece left cs out hidden}, Piece piece left cs →
    closesFrom hideNewline hidden (piece ++ cs) = false →
    (closesFrom hideNewline false cs = false → closesFrom hideNewline false out = false) →
    closesFrom hideNewline hidden (left ++ out) = false

namespace Rewrites

variable {hideNewline : Bool} {Keep : Char → List Char → Prop}
  {Piece : List Char → List Char → List Char → Prop} {First : Char → Prop} {cs out : List Char}

theorem closesFrom_eq_false (h : Rewrites hideNewline Keep Piece cs out)
    (htame : Tame hideNewline Piece First) {hidden : Bool}
    (hcs : closesFrom hideNewline hidden cs = false) :
    closesFrom hideNewline hidden out = false := by
  induction h generalizing hidden with
  | nil => exact hcs
  | @kept c cs out _ _ _ ih =>
    simp only [closesFrom, Bool.or_eq_false_iff, Bool.and_eq_false_iff] at hcs ⊢
    exact ⟨hcs.1, hcs.2.imp id ih⟩
  | @literal body cs out hbody _ ih =>
    -- The quotes of a literal close whatever is open.
    have hclosed : closesFrom hideNewline false (body ++ '"' :: cs) = true := by
      rw [← closesLiteral_eq, hbody.closesLiteral_append]
    cases hidden with
    | false => simp [closesFrom] at hcs
    | true => simp [closesFrom, hclosed] at hcs
  | piece hpiece _ ih => exact htame.neutral hpiece hcs ih

/-- A quote that opens no literal opens none after the pass. -/
theorem closesLiteral_eq_false (h : Rewrites hideNewline Keep Piece cs out)
    (htame : Tame hideNewline Piece First) (hcs : closesLiteral hideNewline cs = false) :
    closesLiteral hideNewline out = false := by
  rw [closesLiteral_eq] at hcs ⊢
  exact h.closesFrom_eq_false htame hcs

/-- A character that comes from no piece was there before. -/
theorem exists_of_cons {c : Char} (h : Rewrites hideNewline Keep Piece cs (c :: out))
    (htame : Tame hideNewline Piece First) (hfirst : ¬ First c) (hquote : c ≠ '"') :
    ∃ cs', cs = c :: cs' ∧ Rewrites hideNewline Keep Piece cs' out := by
  generalize hout : c :: out = out' at h
  cases h with
  | nil => contradiction
  | kept _ _ h =>
    obtain ⟨rfl, rfl⟩ := List.cons.inj hout
    exact ⟨_, rfl, h⟩
  | literal => exact absurd (List.cons.inj hout).1 hquote
  | piece hpiece h =>
    obtain ⟨d, rest, rfl, hd⟩ := htame.starts hpiece
    obtain ⟨rfl, -⟩ := List.cons.inj hout
    exact absurd hd hfirst

theorem exists_of_append {ds : List Char} (h : Rewrites hideNewline Keep Piece cs (ds ++ out))
    (htame : Tame hideNewline Piece First) (hds : ∀ c ∈ ds, ¬ First c ∧ c ≠ '"') :
    ∃ cs', cs = ds ++ cs' ∧ Rewrites hideNewline Keep Piece cs' out := by
  induction ds generalizing cs with
  | nil => exact ⟨cs, rfl, h⟩
  | cons d ds ih =>
    obtain ⟨hd, hds⟩ := List.forall_mem_cons.1 hds
    obtain ⟨cs', rfl, h'⟩ := exists_of_cons h htame hd.1 hd.2
    obtain ⟨cs'', rfl, h''⟩ := ih h' hds
    exact ⟨cs'', rfl, h''⟩

/-- A literal that comes from no piece was there before. -/
theorem exists_of_literal {body : List Char}
    (h : Rewrites hideNewline Keep Piece cs ('"' :: (body ++ '"' :: out)))
    (htame : Tame hideNewline Piece First) (hfirst : ¬ First '"')
    (hbody : Enclosed hideNewline body) :
    ∃ cs', cs = '"' :: (body ++ '"' :: cs') ∧ Rewrites hideNewline Keep Piece cs' out := by
  generalize hout : '"' :: (body ++ '"' :: out) = out' at h
  cases h with
  | nil => contradiction
  | kept _ hquote h =>
    -- A quote that opened no literal does not open this one.
    obtain ⟨rfl, rfl⟩ := List.cons.inj hout
    have hopen := h.closesLiteral_eq_false htame (hquote rfl)
    rw [hbody.closesLiteral_append] at hopen
    contradiction
  | literal hbody' h =>
    obtain ⟨rfl, rfl⟩ := hbody.append_inj hbody' (List.cons.inj hout).2
    exact ⟨_, rfl, h⟩
  | piece hpiece h =>
    obtain ⟨d, rest, rfl, hd⟩ := htame.starts hpiece
    obtain ⟨rfl, -⟩ := List.cons.inj hout
    exact absurd hd hfirst

/-- A lexeme that comes from no piece was there before. -/
theorem exists_of_lexeme {t : Lexeme} (ht : t.Valid)
    (h : Rewrites hideNewline Keep Piece cs (t.text ++ out))
    (htame : Tame hideNewline Piece First) (hfirst : ∀ c ∈ t.text.head?, ¬ First c)
    (hbare : ∀ c, isBareChar c = true → ¬ First c) :
    ∃ cs', cs = t.text ++ cs' ∧ Rewrites hideNewline Keep Piece cs' out := by
  cases t with
  | literal body =>
    simp only [Lexeme.text, List.cons_append, List.append_assoc, List.nil_append] at h ⊢
    exact h.exists_of_literal htame (hfirst '"' rfl) (LiteralBody.enclosed ht hideNewline)
  | bare text =>
    refine h.exists_of_append htame fun c hc => ?_
    have hc := BareText.isBareChar ht c hc
    exact ⟨hbare c hc, ne_of_isBareChar hc (by decide)⟩
  | openList | closeList | openObject | closeObject | colon | comma =>
    refine h.exists_of_append htame fun c hc => ?_
    obtain rfl := List.mem_singleton.1 hc
    exact ⟨hfirst _ rfl, by decide⟩

/-- Something is left of every text. -/
theorem eq_nil (h : Rewrites hideNewline Keep Piece cs []) (htame : Tame hideNewline Piece First) :
    cs = [] := by
  generalize hout : [] = out at h
  cases h with
  | nil => rfl
  | kept | literal => contradiction
  | piece hpiece h =>
    obtain ⟨c, rest, rfl, -⟩ := htame.starts hpiece
    contradiction

end Rewrites

end FenceLint.Json
