import FenceLint.Proofs.Markup.Cut

/-!
# Escaped text

Cutting a text into pieces and escaping it both follow the cuts of the text (`pieces_tag`,
`pieces_text` and `escapeChars_tag`, `escapeChars_text`).  So the tags of an escaped text are those
of the text, each after an odd number of backslashes, whatever tag comes next
(`pieces_escapeChars_append_tag`).
-/

namespace FenceLint.Markup

/-! ## Pieces -/

/-- The pieces for a text read before a tag. -/
theorem flatMap_flush {α : Type} {f : Piece → List α} (hf : f (.text []) = []) (cs : List Char) :
    (flush cs.reverse).flatMap f = f (.text cs) := by
  cases cs with
  | nil => exact hf.symm
  | cons c cs => simp [flush]

theorem piecesFrom_skip (before : List Char) (k : Nat) (inside rest : List Char) :
    piecesFrom before k inside.length (inside ++ rest) = piecesFrom before k 0 rest := by
  induction inside with
  | nil => rfl
  | cons c inside ih => exact ih

theorem piecesFrom_slashes (before : List Char) (j k : Nat) (cs : List Char) :
    piecesFrom before j 0 (slashes k ++ cs) = piecesFrom before (j + k) 0 cs := by
  induction k generalizing j with
  | zero => rfl
  | succ k ih =>
    calc piecesFrom before j 0 (slashes (k + 1) ++ cs)
        = piecesFrom before (j + 1) 0 (slashes k ++ cs) := rfl
      _ = piecesFrom before (j + 1 + k) 0 cs := ih (j + 1)
      _ = piecesFrom before (j + (k + 1)) 0 cs := by rw [Nat.add_right_comm, Nat.add_assoc]

/-- A tag ends the text before it. -/
theorem piecesFrom_tag (before : List Char) (k : Nat) {body : List Char} (hbody : IsTagBody body)
    (rest : List Char) :
    piecesFrom before k 0 ('[' :: (body ++ ']' :: rest)) =
      flush before ++ .bracket k body :: pieces rest := by
  have hsome : tagBody? (body ++ ']' :: rest) = some body :=
    tagBody?_eq_some_iff.mpr ⟨hbody, rest, rfl⟩
  have hskip : piecesFrom [] 0 (body.length + 1) (body ++ ']' :: rest) = pieces rest := by
    simpa [pieces] using piecesFrom_skip [] 0 (body ++ [']']) rest
  rw [piecesFrom]
  simp [hsome, hskip]

/-- Text that opens no tag is read as it is, up to the backslashes at its end. -/
theorem piecesFrom_text {cs after : List Char} (before : List Char) (j : Nat) (hne : cs ≠ [])
    (hlast : cs.getLast? ≠ some '\\')
    (hopens : ∀ u w, cs = u ++ '[' :: w → tagBody? (w ++ after) = none) :
    piecesFrom before j 0 (cs ++ after) =
      piecesFrom (cs.reverse ++ slashes j ++ before) 0 0 after := by
  induction cs generalizing before j with
  | nil => exact absurd rfl hne
  | cons c cs ih =>
    have hopens' : ∀ u w, cs = u ++ '[' :: w → tagBody? (w ++ after) = none := by
      rintro u w rfl
      exact hopens (c :: u) w rfl
    by_cases hc : c = '\\'
    · subst hc
      have hne' : cs ≠ [] := by
        rintro rfl
        exact hlast rfl
      have hlast' : cs.getLast? ≠ some '\\' := by
        rwa [List.getLast?_cons_of_ne_nil hne'] at hlast
      calc piecesFrom before j 0 ('\\' :: cs ++ after)
          = piecesFrom before (j + 1) 0 (cs ++ after) := rfl
        _ = piecesFrom (cs.reverse ++ slashes (j + 1) ++ before) 0 0 after :=
            ih before (j + 1) hne' hlast' hopens'
        _ = piecesFrom (('\\' :: cs).reverse ++ slashes j ++ before) 0 0 after := by
            simp [slashes_succ]
    · have hplain : piecesFrom before j 0 (c :: (cs ++ after)) =
          piecesFrom (c :: (slashes j ++ before)) 0 0 (cs ++ after) := by
        rw [piecesFrom]
        by_cases hopen : c = '['
        · subst hopen
          simp [hopens [] cs rfl, slashes]
        · simp [hc, hopen, slashes]
      rw [List.cons_append, hplain]
      by_cases hnil : cs = []
      · subst hnil
        simp
      · rw [ih _ 0 hnil (by rwa [List.getLast?_cons_of_ne_nil hnil] at hlast) hopens']
        simp

/-- Text without tags is read up to a tag or the end. -/
theorem pieces_append {cs after : List Char} (hcs : Tagless cs) (hlast : cs.getLast? ≠ some '\\')
    (k : Nat) (hafter : Apart after) :
    pieces (cs ++ (slashes k ++ after)) = piecesFrom cs.reverse k 0 after := by
  by_cases hnil : cs = []
  · subst hnil
    rw [pieces, List.nil_append, piecesFrom_slashes, Nat.zero_add]
    rfl
  · have hopens : ∀ u w, cs = u ++ '[' :: w → tagBody? (w ++ (slashes k ++ after)) = none := by
      rintro u w rfl
      have htagless := hcs.append_slashes k
      rw [List.append_assoc] at htagless
      rw [← List.append_assoc]
      exact tagBody?_append hafter ((tagless_cons_iff.mp htagless.of_append).2 rfl)
    rw [pieces, piecesFrom_text [] 0 hnil hlast hopens, piecesFrom_slashes]
    simp

/-- A text without tags is one piece. -/
theorem pieces_text {cs : List Char} (hcs : Tagless cs) : pieces cs = flush cs.reverse := by
  obtain ⟨stem, k, rfl, hlast⟩ := exists_slashes cs
  have hafter : Apart [] := .inr (by simp)
  have h := pieces_append hcs.of_append_left hlast k hafter
  rw [List.append_nil] at h
  rw [h, piecesFrom, List.reverse_append]
  simp [slashes]

/-- The pieces of a text up to its first tag, and the pieces after it. -/
theorem pieces_tag {cs body : List Char} (hcs : Tagless cs) (hlast : cs.getLast? ≠ some '\\')
    (k : Nat) (hbody : IsTagBody body) (rest : List Char) :
    pieces (cs ++ (slashes k ++ '[' :: (body ++ ']' :: rest))) =
      flush cs.reverse ++ .bracket k body :: pieces rest := by
  rw [pieces_append hcs hlast k (.inl rfl), piecesFrom_tag _ _ hbody]

/-! ## Escaping -/

/-- The characters of a text that is escaped. -/
def escapeChars (cs : List Char) : List Char := guardEnd ((pieces cs).flatMap escapePiece)

theorem escape_eq (s : String) : escape s = String.ofList (escapeChars s.toList) := rfl

/-- How many backslashes stand at the end of an escaped text for `k` at the end of the text. -/
def guarded (k : Nat) : Nat := if k = 1 then 2 else k

theorem guardEnd_append_slashes {cs : List Char} (hlast : cs.getLast? ≠ some '\\') (k : Nat) :
    guardEnd (cs ++ slashes k) = cs ++ slashes (guarded k) := by
  rw [guardEnd, List.reverse_append, slashes, List.reverse_replicate]
  match k with
  | 0 =>
    rw [← List.head?_reverse] at hlast
    cases hrev : cs.reverse with
    | nil => simp [guarded]
    | cons c front =>
      have hc : c ≠ '\\' := by simpa [hrev] using hlast
      simp [guarded, hc]
  | 1 =>
    rw [← List.head?_reverse] at hlast
    cases hrev : cs.reverse with
    | nil => simp [guarded, slashes]
    | cons c front =>
      have hc : c ≠ '\\' := by simpa [hrev] using hlast
      simp [guarded, slashes, hc]
  | k + 2 => simp [guarded, slashes, List.replicate_succ]

/-- Only what stands at the very end is guarded. -/
theorem guardEnd_append_cons (cs : List Char) {c : Char} (hc : c ≠ '\\') (rest : List Char) :
    guardEnd (cs ++ c :: rest) = cs ++ c :: guardEnd rest := by
  obtain ⟨stem, k, rfl, hlast⟩ := exists_slashes rest
  have hlast' : (cs ++ c :: stem).getLast? ≠ some '\\' := by
    cases hstem : stem.getLast? with
    | none =>
      obtain rfl := List.getLast?_eq_none_iff.mp hstem
      simpa using hc
    | some d =>
      rw [hstem] at hlast
      simpa [List.getLast?_append, List.getLast?_cons, hstem] using hlast
  rw [guardEnd_append_slashes hlast]
  have h := guardEnd_append_slashes hlast' k
  simpa using h

theorem escapeChars_text {cs : List Char} (hcs : Tagless cs) (hlast : cs.getLast? ≠ some '\\')
    (k : Nat) : escapeChars (cs ++ slashes k) = cs ++ slashes (guarded k) := by
  rw [escapeChars, pieces_text (hcs.append_slashes k), flatMap_flush rfl, escapePiece,
    guardEnd_append_slashes hlast]

/-- The backslashes before a tag are doubled, and one more makes it plain text. -/
theorem escapeChars_tag {cs body : List Char} (hcs : Tagless cs) (hlast : cs.getLast? ≠ some '\\')
    (k : Nat) (hbody : IsTagBody body) (rest : List Char) :
    escapeChars (cs ++ (slashes k ++ '[' :: (body ++ ']' :: rest))) =
      cs ++ (slashes (2 * k + 1) ++ '[' :: (body ++ ']' :: escapeChars rest)) := by
  have h := guardEnd_append_cons (cs ++ slashes (2 * k + 1) ++ '[' :: body) (c := ']') (by decide)
    ((pieces rest).flatMap escapePiece)
  rw [escapeChars, pieces_tag hcs hlast k hbody, List.flatMap_append, flatMap_flush rfl,
    List.flatMap_cons]
  simpa [escapePiece, escapeChars, slashes] using h

/-- The end of a text decides about the end of the text after a tag. -/
theorem getLast?_of_tag {cs body rest : List Char} {k : Nat}
    (h : (cs ++ (slashes k ++ '[' :: (body ++ ']' :: rest))).getLast? ≠ some '\\') :
    rest.getLast? ≠ some '\\' := by
  intro hrest
  apply h
  simp [List.getLast?_append, List.getLast?_cons, hrest]

/-- The backslashes at the end of a text are escaped apart from the rest. -/
theorem escapeChars_append_slashes {stem : List Char} (hlast : stem.getLast? ≠ some '\\')
    (k : Nat) : escapeChars (stem ++ slashes k) = escapeChars stem ++ slashes (guarded k) := by
  induction cut stem with
  | text hcs =>
    have hstem := escapeChars_text hcs hlast 0
    rw [slashes_zero, List.append_nil] at hstem
    rw [escapeChars_text hcs hlast, hstem]
    simp [guarded]
  | @tag cs j inside stem' hcs hcs' hinside _ ih =>
    have h := escapeChars_tag hcs hcs' j hinside (stem' ++ slashes k)
    rw [ih (getLast?_of_tag hlast)] at h
    rw [escapeChars_tag hcs hcs' j hinside]
    simpa using h

/-- A piece of an escaped text. -/
def Piece.escaped : Piece → Piece
  | .text cs => .text cs
  | .bracket k body => .bracket (2 * k + 1) body

/-- A tag that comes after an escaped text is found after it, and no other tag forms. -/
theorem pieces_escapeChars_append_tag {stem body : List Char} (hlast : stem.getLast? ≠ some '\\')
    (j : Nat) (hbody : IsTagBody body) (rest : List Char) :
    pieces (escapeChars stem ++ (slashes j ++ '[' :: (body ++ ']' :: rest))) =
      (pieces stem).map Piece.escaped ++ .bracket j body :: pieces rest := by
  induction cut stem with
  | @text cs hcs =>
    have hstem := escapeChars_text hcs hlast 0
    rw [slashes_zero, List.append_nil] at hstem
    rw [hstem, pieces_text hcs]
    have h := pieces_tag hcs hlast j hbody rest
    cases cs with
    | nil => simpa [flush, guarded] using h
    | cons c cs => simpa [flush, Piece.escaped, guarded] using h
  | @tag cs k inside stem' hcs hcs' hinside _ ih =>
    have h := pieces_tag hcs hcs' (2 * k + 1) hinside
      (escapeChars stem' ++ (slashes j ++ '[' :: (body ++ ']' :: rest)))
    rw [ih (getLast?_of_tag hlast)] at h
    rw [escapeChars_tag hcs hcs' k hinside, pieces_tag hcs hcs' k hinside]
    cases cs with
    | nil => simpa [flush, Piece.escaped] using h
    | cons c cs => simpa [flush, Piece.escaped] using h

end FenceLint.Markup
