import FenceLint.Proofs.Markup.Line

/-!
# The markup of a line can be rendered

An escaped text holds no tag that opens or closes a style, so the tags of a line meet the styles
that they are meant for: each closing tag finds its style on top, or it is read as text because of
the backslashes before it, and the style stays open (`Line.exists_render`).
-/

namespace FenceLint.Markup

/-- The piece opens and closes no style. -/
def Piece.IsQuiet : Piece → Prop
  | .text _ => True
  | .bracket k _ => k % 2 = 1

theorem Piece.isQuiet_escaped (p : Piece) : p.escaped.IsQuiet := by
  cases p with
  | text cs => trivial
  | bracket k body => exact show (2 * k + 1) % 2 = 1 by omega

theorem isQuiet_of_mem_flush {cs : List Char} {p : Piece} (hp : p ∈ flush cs) : p.IsQuiet := by
  rw [flush] at hp
  split at hp
  · simp at hp
  · rw [List.mem_singleton.mp hp]
    trivial

/-- No tag in an escaped text opens or closes a style. -/
theorem isQuiet_of_mem_pieces_escapeChars {cs : List Char} {p : Piece}
    (hp : p ∈ pieces (escapeChars cs)) : p.IsQuiet := by
  induction cut cs with
  | @text cs hcs =>
    obtain ⟨stem, k, rfl, hlast⟩ := exists_slashes cs
    have hstem := hcs.of_append_left
    rw [escapeChars_text hstem hlast, pieces_text (hstem.append_slashes _)] at hp
    exact isQuiet_of_mem_flush hp
  | tag k hcs hlast hbody _ ih =>
    rw [escapeChars_tag hcs hlast k hbody, pieces_tag hcs hlast _ hbody] at hp
    rcases List.mem_append.mp hp with hp | hp
    · exact isQuiet_of_mem_flush hp
    · rcases List.mem_cons.mp hp with rfl | hp
      · exact show (2 * k + 1) % 2 = 1 by omega
      · exact ih hp

/-! ## Cells -/

theorem map_char_cellsOf (opened : List OpenTag) (run : Nat) (cs : List Char) :
    (cellsOf opened run cs).map (·.char) = shown cs := by
  rw [cellsOf, List.map_map]
  exact List.map_id _

theorem shown_slashes (k : Nat) : shown (slashes k) = slashes k :=
  shown_append_slashes [] k

theorem except_map_map {α β γ : Type} (f : α → β) (g : β → γ) (x : Except Fault α) :
    (x.map f).map g = x.map (g ∘ f) := by
  cases x <;> rfl

/-- What quiet pieces show comes before what is rendered after them, under the same styles. -/
theorem renderFrom_quiet {qs : List Piece} (hqs : ∀ q ∈ qs, q.IsQuiet) (opened : List OpenTag)
    (run offset : Nat) : ∃ before next, before.map (·.char) = qs.flatMap Piece.visible ∧
      ∀ ps, renderFrom opened run offset (qs ++ ps) =
        (renderFrom opened run next ps).map (before ++ ·) := by
  induction qs generalizing offset with
  | nil =>
    refine ⟨[], offset, rfl, fun ps => ?_⟩
    exact (congrFun Except.map_id (renderFrom opened run offset ps)).symm
  | cons q qs ih =>
    rw [List.forall_mem_cons] at hqs
    cases q with
    | text cs =>
      obtain ⟨before, next, hbefore, hps⟩ := ih hqs.2 (offset + cs.length)
      refine ⟨cellsOf opened run cs ++ before, next, ?_, fun ps => ?_⟩
      · rw [List.map_append, map_char_cellsOf, hbefore]
        rfl
      · rw [List.cons_append, renderFrom, hps, except_map_map]
        simp [Function.comp_def]
    | bracket k body =>
      have hodd : k % 2 = 1 := hqs.1
      obtain ⟨before, next, hbefore, hps⟩ := ih hqs.2 (offset + k + body.length + 2)
      refine ⟨cellsOf opened run (slashes (k / 2)) ++ cellsOf opened run ('[' :: body ++ [']']) ++
        before, next, ?_, fun ps => ?_⟩
      · rw [List.map_append, List.map_append, map_char_cellsOf, map_char_cellsOf, hbefore,
          shown_slashes, List.flatMap_cons, Piece.visible, if_pos hodd]
      · rw [List.cons_append, renderFrom, hps, except_map_map, if_pos (by simp [hodd])]
        simp [Function.comp_def, slashes]

/-- The pieces can be rendered, whatever styles are open, and show what they show without styles. -/
def Renders (ps : List Piece) : Prop := ∀ opened run offset, ∃ cells,
  renderFrom opened run offset ps = .ok cells ∧ cells.map (·.char) = ps.flatMap Piece.visible

theorem Renders.quiet_append {qs ps : List Piece} (hqs : ∀ q ∈ qs, q.IsQuiet) (hps : Renders ps) :
    Renders (qs ++ ps) := by
  intro opened run offset
  obtain ⟨before, next, hbefore, happend⟩ := renderFrom_quiet hqs opened run offset
  obtain ⟨cells, hcells, hchars⟩ := hps opened run next
  refine ⟨before ++ cells, by rw [happend, hcells]; rfl, ?_⟩
  rw [List.map_append, hbefore, hchars, List.flatMap_append]

theorem renders_nil : Renders [] := fun _ _ _ => ⟨[], rfl, rfl⟩

theorem renderFrom_tag {body : List Char} {j : Nat} (hj : j % 2 ≠ 1) {opened opened' : List OpenTag}
    (hbody : ∀ offset, applyTag body offset opened = .ok opened') (run offset : Nat)
    (ps : List Piece) : renderFrom opened run offset (.bracket j body :: ps) =
      (renderFrom opened' (run + 1) (offset + j + body.length + 2) ps).map
        (cellsOf opened run (slashes (j / 2)) ++ ·) := by
  rw [renderFrom, if_neg (by simpa using hj), hbody]
  rfl

/-- A style is opened; backslashes before the closing tag may keep it from being closed. -/
theorem Renders.span {name : List Char} (hname : IsStyle name) {qs ps : List Piece}
    (hqs : ∀ q ∈ qs, q.IsQuiet) (j : Nat) (hps : Renders ps) :
    Renders (.bracket 0 name :: (qs ++ .bracket j ('/' :: name) :: ps)) := by
  intro opened run offset
  obtain ⟨-, -, tag, hopen, hclose⟩ := hname
  rw [renderFrom_tag (by decide) fun offset => hopen offset opened]
  suffices h : ∃ cells, renderFrom (tag :: opened) (run + 1) (offset + 0 + name.length + 2)
      (qs ++ .bracket j ('/' :: name) :: ps) = .ok cells ∧
        cells.map (·.char) = (qs ++ .bracket j ('/' :: name) :: ps).flatMap Piece.visible by
    obtain ⟨cells, hcells, hchars⟩ := h
    exact ⟨cells, by rw [hcells]; rfl, hchars⟩
  by_cases hj : j % 2 = 1
  · have hall : ∀ q ∈ qs ++ [.bracket j ('/' :: name)], q.IsQuiet :=
      List.forall_mem_append.mpr ⟨hqs, List.forall_mem_singleton.mpr hj⟩
    have hrenders := hps.quiet_append hall
    rw [List.append_assoc, List.singleton_append] at hrenders
    exact hrenders _ _ _
  · obtain ⟨before, next, hbefore, happend⟩ := renderFrom_quiet hqs (tag :: opened) (run + 1)
      (offset + 0 + name.length + 2)
    obtain ⟨cells, hcells, hchars⟩ := hps opened (run + 1 + 1)
      (next + j + ('/' :: name).length + 2)
    refine ⟨before ++ (cellsOf (tag :: opened) (run + 1) (slashes (j / 2)) ++ cells), ?_, ?_⟩
    · rw [happend, renderFrom_tag hj fun offset => hclose offset opened, hcells]
      rfl
    · rw [List.map_append, List.map_append, map_char_cellsOf, hbefore, hchars, shown_slashes]
      simp [Piece.visible, hj]

namespace Line

theorem renders_markup {lead : String} {spans : List Span} (hsound : IsSound lead spans) :
    Renders (pieces (Line.mk lead spans).markup.toList) := by
  induction spans generalizing lead with
  | nil =>
    rw [toList_markup_nil]
    have hrenders := renders_nil.quiet_append fun p (hp : p ∈ pieces (escapeChars lead.toList)) =>
      isQuiet_of_mem_pieces_escapeChars hp
    rwa [List.append_nil] at hrenders
  | cons s spans ih =>
    obtain ⟨hslashes, hstyle, -, hsound⟩ := hsound
    have hquiet : ∀ cs, ∀ q ∈ (pieces cs).map Piece.escaped, q.IsQuiet := by
      intro cs q hq
      obtain ⟨p, -, rfl⟩ := List.mem_map.mp hq
      exact p.isQuiet_escaped
    obtain ⟨stem, j, hlead, hlast⟩ := exists_slashes lead.toList
    obtain ⟨inner, k, hinner, hlast'⟩ := exists_slashes s.inner.toList
    obtain rfl : j = 0 := by rwa [hlead, endSlashes_append_slashes hlast] at hslashes
    rw [toList_markup_cons, hlead, hinner, escapeChars_append_slashes hlast,
      escapeChars_append_slashes hlast', List.append_assoc, List.append_assoc,
      pieces_escapeChars_append_tag hlast _ hstyle.1,
      pieces_escapeChars_append_tag hlast' _ hstyle.close.1]
    exact ((ih hsound).span hstyle (hquiet _) _).quiet_append (hquiet _)

/-- The markup of a line can be rendered, and shows what it shows without styles. -/
theorem exists_render {lead : String} {spans : List Span} (hsound : IsSound lead spans) :
    ∃ cells, render (Line.mk lead spans).markup = .ok cells ∧
      cells.map (·.char) = visible (Line.mk lead spans).markup.toList :=
  renders_markup hsound [] 0 0

end Line

end FenceLint.Markup
