import FenceLint.Proofs.Markup.Emoji
import FenceLint.Proofs.Markup.Escape

/-!
# What an escaped text shows

Escaping keeps tags from being read, but what a piece of text shows is not always the piece: a
backslash before a bracket that opens no tag is dropped, and emoji codes are replaced.  A text is
settled if neither happens in any piece of it (`Settled`).  A settled text is kept, and any other
parts from what is shown of it (`kept_eq`, `kept_parted`).
-/

namespace FenceLint.Markup

/-! ## Text that shows itself -/

/-- All characters are shown. -/
def NoControl (cs : List Char) : Prop := ∀ c ∈ cs, isControl c = false

instance (cs : List Char) : Decidable (NoControl cs) := List.decidableBAll _ cs

theorem noControl_append {cs ds : List Char} :
    NoControl (cs ++ ds) ↔ NoControl cs ∧ NoControl ds := List.forall_mem_append

/-- No backslash stands before an opening bracket. -/
def EscapeFree (cs : List Char) : Prop := ¬ ['\\', '['] <:+: cs

/-- The text is shown as it is where no tags are read. -/
def Unaltered (cs : List Char) : Prop := EscapeFree cs ∧ CodeFree cs

instance (cs : List Char) : Decidable (Unaltered cs) :=
  inferInstanceAs (Decidable (¬ _ ∧ CodeFree cs))

theorem escapeFree_cons {c : Char} {cs : List Char} (h : ∀ ds, c = '\\' → cs ≠ '[' :: ds) :
    EscapeFree (c :: cs) ↔ EscapeFree cs := by
  rw [EscapeFree, EscapeFree, not_iff_not, List.infix_cons_iff]
  refine or_iff_right ?_
  rintro ⟨ds, hds⟩
  obtain ⟨rfl, rfl⟩ := List.cons.inj hds
  exact h ds rfl rfl

theorem EscapeFree.unescapeBrackets_eq {cs : List Char} (h : EscapeFree cs) :
    unescapeBrackets cs = cs := by
  fun_induction unescapeBrackets cs with
  | case1 cs ih => exact absurd ⟨[], cs, rfl⟩ h
  | case2 c cs hne ih => rw [ih ((escapeFree_cons fun ds hc => hne ds hc).mp h)]
  | case3 => rfl

theorem unescapeBrackets_parted {cs : List Char} (h : ¬ EscapeFree cs) :
    Text.PartedBy (fun a b => a = '[' ∧ b = '\\') (unescapeBrackets cs) cs := by
  fun_induction unescapeBrackets cs with
  | case1 cs ih => exact ⟨[], '[', '\\', unescapeBrackets cs, '[' :: cs, ⟨rfl, rfl⟩, rfl, rfl⟩
  | case2 c cs hne ih =>
    rw [escapeFree_cons fun ds hc => hne ds hc] at h
    exact (ih h).append_left [c]
  | case3 => exact absurd (by simp [EscapeFree]) h

theorem mem_of_mem_unescapeBrackets {c : Char} {cs : List Char} (h : c ∈ unescapeBrackets cs) :
    c ∈ cs := by
  fun_induction unescapeBrackets cs with
  | case1 cs ih =>
    exact List.mem_cons_of_mem _ (List.mem_cons.mpr ((List.mem_cons.mp h).imp_right ih))
  | case2 d cs hne ih => exact List.mem_cons.mpr ((List.mem_cons.mp h).imp_right ih)
  | case3 => exact h

theorem shown_eq {cs : List Char} (hcs : NoControl cs) :
    shown cs = replaceEmoji (unescapeBrackets cs) := by
  rw [shown, List.filter_eq_self]
  intro c hc
  have hvisible := isControl_of_mem_replaceEmoji
    (fun c hc => hcs c (mem_of_mem_unescapeBrackets hc)) c hc
  simp [hvisible]

theorem Unaltered.shown_eq {cs : List Char} (h : Unaltered cs) (hcs : NoControl cs) :
    shown cs = cs := by
  rw [Markup.shown_eq hcs, h.1.unescapeBrackets_eq, h.2.replaceEmoji_eq]

/-- A text that is altered parts from what is shown: at a backslash that is dropped, or at a code
that is replaced. -/
theorem shown_parted {cs : List Char} (hcs : NoControl cs) (h : ¬ Unaltered cs) :
    Text.Parted (shown cs) cs := by
  rw [shown_eq hcs]
  have hne : ∀ a b : Char, a ≠ ':' ∧ b = ':' → a ≠ b := by
    rintro a b ⟨ha, rfl⟩
    exact ha
  by_cases hescape : EscapeFree cs
  · rw [hescape.unescapeBrackets_eq]
    exact (replaceEmoji_parted fun hcode => h ⟨hescape, hcode⟩).mono hne
  · have hparted := unescapeBrackets_parted hescape
    have hne' : ∀ a b : Char, a = '[' ∧ b = '\\' → a ≠ b := by
      rintro a b ⟨rfl, rfl⟩
      decide
    by_cases hcode : CodeFree (unescapeBrackets cs)
    · rw [hcode.replaceEmoji_eq]
      exact hparted.mono hne'
    · refine (replaceEmoji_parted hcode).trans hparted hne hne' ?_
      rintro a b c ⟨-, rfl⟩ ⟨h, -⟩
      exact absurd h (by decide)

/-- Backslashes at the end are shown. -/
theorem shown_append_slashes (cs : List Char) (k : Nat) :
    shown (cs ++ slashes k) = shown cs ++ slashes k := by
  have hescape : unescapeBrackets (cs ++ slashes k) = unescapeBrackets cs ++ slashes k := by
    fun_induction unescapeBrackets cs with
    | case1 cs ih => simpa [unescapeBrackets] using ih
    | case2 c cs hne ih =>
      rw [List.cons_append, unescapeBrackets.eq_2, ih, List.cons_append]
      intro ds hc hds
      cases cs with
      | nil => exact absurd (eq_of_mem_slashes (hds ▸ List.mem_cons_self)) (by decide)
      | cons d cs =>
        obtain ⟨rfl, -⟩ := List.cons.inj hds
        exact hne cs hc rfl
    | case3 =>
      refine EscapeFree.unescapeBrackets_eq fun hwithin => ?_
      have hopen : '[' ∈ slashes k := hwithin.subset (by simp)
      exact absurd (eq_of_mem_slashes hopen) (by decide)
  have hcolon : ':' ∉ slashes k := fun hmem => absurd (eq_of_mem_slashes hmem) (by decide)
  have hcontrol : (slashes k).filter (fun c => !isControl c) = slashes k := by
    rw [List.filter_eq_self]
    intro c hc
    rw [eq_of_mem_slashes hc]
    rfl
  rw [shown, shown, hescape, replaceEmoji_append _ hcolon, List.filter_append, hcontrol]

/-- What is shown does not begin with a backslash unless the text does. -/
theorem head?_shown {c : Char} {cs : List Char} (hcs : NoControl (c :: cs)) (hc : c ≠ '\\') :
    ∃ d ds, shown (c :: cs) = d :: ds ∧ d ≠ '\\' := by
  have hescape : unescapeBrackets (c :: cs) = c :: unescapeBrackets cs :=
    unescapeBrackets.eq_2 c cs fun ds h => absurd h hc
  rw [shown_eq hcs, hescape, replaceEmoji_eq]
  generalize hall : c :: unescapeBrackets cs = all
  cases inParts all with
  | nil => simp at hall
  | char hname _ =>
    obtain ⟨rfl, rfl⟩ := List.cons.inj hall
    rw [emojiParts_char hname]
    exact ⟨c, _, rfl, hc⟩
  | @code name rest hname _ =>
    rw [emojiParts_code hname, List.flatMap_cons, EmojiPart.replaced]
    cases hemoji : emojiFor? name with
    | none => exact ⟨':', _, rfl, by decide⟩
    | some emoji =>
      obtain ⟨⟨d, hhead, -, hd⟩, -⟩ := isEmoji_of_emojiFor? hemoji
      obtain ⟨ds, rfl⟩ := List.head?_eq_some_iff.mp hhead
      exact ⟨d, _, rfl, hd⟩

/-! ## Pieces -/

namespace Piece

/-- What a piece shows where the styles are not looked at. -/
def visible : Piece → List Char
  | text cs => shown cs
  | bracket k body => slashes (k / 2) ++ if k % 2 = 1 then shown ('[' :: body ++ [']']) else []

/-- A piece without the backslashes before it. -/
def inside : Piece → List Char
  | text cs => cs
  | bracket _ body => '[' :: body ++ [']']

/-- The characters of a piece. -/
def chars : Piece → List Char
  | text cs => cs
  | bracket k body => slashes k ++ ('[' :: body ++ [']'])

/-- A piece that is escaped shows its backslashes and what its inside shows. -/
theorem visible_escaped (p : Piece) : ∃ before, p.escaped.visible = before ++ shown p.inside ∧
    p.chars = before ++ p.inside := by
  cases p with
  | text cs => exact ⟨[], rfl, rfl⟩
  | bracket k body =>
    refine ⟨slashes k, ?_, rfl⟩
    have hhalf : (2 * k + 1) / 2 = k := by omega
    have hodd : (2 * k + 1) % 2 = 1 := by omega
    rw [escaped, visible, hhalf, if_pos hodd, inside]

theorem visible_escaped_eq {p : Piece} (hcontrol : NoControl p.chars) (h : Unaltered p.inside) :
    p.escaped.visible = p.chars := by
  obtain ⟨before, hvisible, hchars⟩ := p.visible_escaped
  rw [hchars, noControl_append] at hcontrol
  rw [hvisible, hchars, h.shown_eq hcontrol.2]

theorem visible_escaped_parted {p : Piece} (hcontrol : NoControl p.chars)
    (h : ¬ Unaltered p.inside) : Text.Parted p.escaped.visible p.chars := by
  obtain ⟨before, hvisible, hchars⟩ := p.visible_escaped
  rw [hchars, noControl_append] at hcontrol
  rw [hvisible, hchars]
  exact (shown_parted hcontrol.2 h).append_left before

end Piece

/-- What a text shows where the styles are not looked at. -/
def visible (cs : List Char) : List Char := (pieces cs).flatMap Piece.visible

/-- What is shown of a text that is escaped, but for backslashes at its end. -/
def kept (cs : List Char) : List Char := (pieces cs).flatMap fun p => p.escaped.visible

/-- Nothing in the text is altered when it is escaped and shown. -/
def Settled (cs : List Char) : Prop := ∀ p ∈ pieces cs, Unaltered p.inside

instance (cs : List Char) : Decidable (Settled cs) :=
  inferInstanceAs (Decidable (∀ p ∈ pieces cs, _))

/-- The pieces of a text make it up. -/
theorem flatMap_pieces (cs : List Char) : (pieces cs).flatMap Piece.chars = cs := by
  induction cut cs with
  | text hcs => rw [pieces_text hcs, flatMap_flush rfl, Piece.chars]
  | tag k hcs hlast hbody _ ih =>
    rw [pieces_tag hcs hlast k hbody, List.flatMap_append, flatMap_flush rfl, List.flatMap_cons, ih]
    simp [Piece.chars]

theorem noControl_of_mem_pieces {cs : List Char} (hcs : NoControl cs) {p : Piece}
    (hp : p ∈ pieces cs) : NoControl p.chars := by
  intro c hc
  refine hcs c ?_
  rw [← flatMap_pieces cs]
  exact List.mem_flatMap.mpr ⟨p, hp, hc⟩

/-- A settled text is kept. -/
theorem kept_eq {cs : List Char} (hcs : NoControl cs) (h : Settled cs) : kept cs = cs := by
  have heq : kept cs = (pieces cs).flatMap Piece.chars := List.flatMap_congr fun p hp =>
    Piece.visible_escaped_eq (noControl_of_mem_pieces hcs hp) (h p hp)
  rw [heq, flatMap_pieces]

/-- Any other text parts from what is shown of it. -/
theorem kept_parted {cs : List Char} (hcs : NoControl cs) (h : ¬ Settled cs) :
    Text.Parted (kept cs) cs := by
  have hparted := Text.PartedBy.flatMap (l := pieces cs) (p := fun p => Unaltered p.inside)
    (fun p hp hinside => Piece.visible_escaped_eq (noControl_of_mem_pieces hcs hp) hinside)
    (fun p hp hinside => Piece.visible_escaped_parted (noControl_of_mem_pieces hcs hp) hinside) h
  rwa [flatMap_pieces] at hparted

/-! ## Where an escaped text stands -/

/-- An escaped text before a tag. -/
theorem visible_escapeChars_append_tag {stem body : List Char} (hlast : stem.getLast? ≠ some '\\')
    (j : Nat) (hbody : IsTagBody body) (rest : List Char) :
    visible (escapeChars stem ++ (slashes j ++ '[' :: (body ++ ']' :: rest))) =
      kept stem ++ ((Piece.bracket j body).visible ++ visible rest) := by
  rw [visible, pieces_escapeChars_append_tag hlast j hbody, List.flatMap_append, List.flatMap_map,
    List.flatMap_cons]
  rfl

/-- An escaped text at the end. -/
theorem visible_escapeChars_append_slashes {stem : List Char} (hlast : stem.getLast? ≠ some '\\')
    (j : Nat) : visible (escapeChars stem ++ slashes j) = kept stem ++ slashes j := by
  induction cut stem with
  | @text cs hcs =>
    have hstem := escapeChars_text hcs hlast 0
    rw [slashes_zero, List.append_nil] at hstem
    rw [hstem, kept, pieces_text hcs, flatMap_flush rfl, visible]
    rw [show guarded 0 = 0 from rfl, slashes_zero, List.append_nil,
      pieces_text (hcs.append_slashes j), flatMap_flush rfl]
    exact shown_append_slashes cs j
  | @tag cs k body rest hcs hcs' hbody _ ih =>
    have hrest := ih (getLast?_of_tag hlast)
    have hpieces := pieces_tag hcs hcs' (2 * k + 1) hbody (escapeChars rest ++ slashes j)
    rw [escapeChars_tag hcs hcs' k hbody]
    simp only [List.append_assoc, List.cons_append] at *
    rw [visible, hpieces, kept, pieces_tag hcs hcs' k hbody]
    rw [List.flatMap_append, List.flatMap_append, flatMap_flush rfl, flatMap_flush rfl,
      List.flatMap_cons, List.flatMap_cons]
    rw [visible] at hrest
    simp [hrest, kept, Piece.escaped]

/-- What is kept of a text does not begin with a backslash unless the text does. -/
theorem head?_kept {c : Char} {cs : List Char} (hcs : NoControl (c :: cs)) (hc : c ≠ '\\') :
    ∃ d ds, kept (c :: cs) = d :: ds ∧ d ≠ '\\' := by
  -- The first piece is a text that begins with the character, or a tag without backslashes.
  suffices hfirst : ∃ p ps, pieces (c :: cs) = p :: ps ∧ ∃ d ds, p.escaped.visible = d :: ds ∧
      d ≠ '\\' by
    obtain ⟨p, ps, hpieces, d, ds, hvisible, hd⟩ := hfirst
    refine ⟨d, ds ++ ps.flatMap fun p => p.escaped.visible, ?_, hd⟩
    rw [kept, hpieces, List.flatMap_cons, hvisible, List.cons_append]
  generalize hall : c :: cs = all at *
  cases cut all with
  | text htagless =>
    subst hall
    exact ⟨.text (c :: cs), [], by simp [pieces_text htagless, flush], head?_shown hcs hc⟩
  | @tag before k body rest htagless hlast hbody _ =>
    rw [pieces_tag htagless hlast k hbody]
    cases before with
    | nil =>
      cases k with
      | zero =>
        have hinside : NoControl ('[' :: (body ++ [']'])) := by
          intro d hd
          refine hcs d ?_
          simp only [List.nil_append, slashes_zero, List.mem_cons, List.mem_append] at hd ⊢
          tauto
        exact ⟨.bracket 0 body, pieces rest, by simp [flush], head?_shown hinside (by decide)⟩
      | succ k =>
        obtain ⟨rfl, -⟩ := List.cons.inj hall
        exact absurd rfl hc
    | cons d before =>
      obtain ⟨rfl, rfl⟩ := List.cons.inj hall
      refine ⟨.text (c :: before), .bracket k body :: pieces rest, by simp [flush], ?_⟩
      exact head?_shown (noControl_append.mp hcs).1 hc

end FenceLint.Markup
