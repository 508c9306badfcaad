import FenceLint.Proofs.Markup.Shown
import FenceLint.Proofs.Trace

/-!
# Lines with styled parts

A line is text with styled parts in it.  Its markup has a tag where a style begins and where it
ends, with every text between two tags escaped.  This module tells exactly when that markup shows
the text of the line (`Line.showsIf`): every text is settled, at most one backslash stands before
the end of a style, and the last text does not end in a single backslash.
-/

namespace FenceLint.Markup

/-- A styled part of a line, and the text after it. -/
structure Span where
  /-- The style. -/
  style : String
  /-- The text that has the style. -/
  inner : String
  /-- The text after it. -/
  after : String := ""

/-- A line. -/
structure Line where
  /-- The text before the first styled part. -/
  lead : String := ""
  /-- The styled parts. -/
  spans : List Span := []

/-- The text of a styled part with its tags. -/
def Span.markup (s : Span) : String :=
  "[" ++ s.style ++ "]" ++ escape s.inner ++ "[/" ++ s.style ++ "]" ++ escape s.after

namespace Line

/-- The text of a line, without styles. -/
def text (l : Line) : String := l.lead ++ String.join (l.spans.map fun s => s.inner ++ s.after)

/-- The markup of a line. -/
def markup (l : Line) : String := escape l.lead ++ String.join (l.spans.map Span.markup)

end Line

/-- How many backslashes stand at the end of a text. -/
def endSlashes (cs : List Char) : Nat := (cs.reverse.takeWhile (· == '\\')).length

theorem endSlashes_append_slashes {stem : List Char} (hlast : stem.getLast? ≠ some '\\')
    (k : Nat) : endSlashes (stem ++ slashes k) = k := by
  rw [endSlashes, List.reverse_append, slashes, List.reverse_replicate,
    List.takeWhile_append_of_pos (by simp)]
  rw [← List.head?_reverse] at hlast
  cases hrev : stem.reverse with
  | nil => simp
  | cons c cs =>
    have hc : c ≠ '\\' := by simpa [hrev] using hlast
    simp [hc]

/-! ## Settled texts -/

theorem escapeFree_append {cs ds : List Char} (h : ds.head? ≠ some '[' ∨ '\\' ∉ cs) :
    EscapeFree (cs ++ ds) ↔ EscapeFree cs ∧ EscapeFree ds := by
  induction cs with
  | nil => simp [EscapeFree]
  | cons c cs ih =>
    have hcs : ds.head? ≠ some '[' ∨ '\\' ∉ cs := h.imp_right fun hmem hin => hmem (by simp [hin])
    by_cases hescape : c = '\\' ∧ cs.head? = some '['
    · obtain ⟨rfl, hhead⟩ := hescape
      obtain ⟨rest, rfl⟩ := List.head?_eq_some_iff.mp hhead
      have hboth : ∀ es, ¬ EscapeFree ('\\' :: '[' :: es) := fun es hfree => hfree ⟨[], es, rfl⟩
      exact iff_of_false (hboth _) fun hfree => hboth _ hfree.1
    · have hc : ∀ es, c = '\\' → cs ≠ '[' :: es := by
        rintro es rfl rfl
        exact hescape ⟨rfl, rfl⟩
      have hc' : ∀ es, c = '\\' → cs ++ ds ≠ '[' :: es := by
        rintro es rfl heq
        cases cs with
        | nil =>
          rcases h with hhead | hmem
          · exact hhead (by rw [show ds = '[' :: es from heq]; rfl)
          · exact hmem (by simp)
        | cons d cs =>
          obtain ⟨rfl, -⟩ := List.cons.inj heq
          exact hc cs rfl rfl
      rw [List.cons_append, escapeFree_cons hc', escapeFree_cons hc, ih hcs]

theorem codeFree_append (cs : List Char) {ds : List Char} (hds : emojiName? ds = none) :
    CodeFree (cs ++ ds) ↔ CodeFree cs ∧ CodeFree ds := by
  rw [CodeFree, emojiParts_append cs hds, List.forall_mem_append]
  rfl

theorem codeFree_of_not_mem {cs : List Char} (h : ':' ∉ cs) : CodeFree cs := by
  rw [CodeFree, emojiParts_of_not_mem h]
  simp [EmojiPart.IsPlain]

theorem settled_text {cs : List Char} (hcs : Tagless cs) : Settled cs ↔ Unaltered cs := by
  rw [Settled, pieces_text hcs]
  cases cs with
  | nil => simp [flush, Unaltered, EscapeFree, CodeFree]
  | cons c cs => simp [flush, Piece.inside]

theorem settled_tag {cs body : List Char} (hcs : Tagless cs) (hlast : cs.getLast? ≠ some '\\')
    (k : Nat) (hbody : IsTagBody body) (rest : List Char) :
    Settled (cs ++ (slashes k ++ '[' :: (body ++ ']' :: rest))) ↔
      Unaltered cs ∧ Unaltered ('[' :: body ++ [']']) ∧ Settled rest := by
  have hflush := settled_text hcs
  rw [Settled, pieces_text hcs] at hflush
  rw [Settled, pieces_tag hcs hlast k hbody, List.forall_mem_append, hflush, List.forall_mem_cons]
  rfl

/-- What comes after a text does not unsettle it if there are no brackets in it. -/
theorem settled_append (cs : List Char) {after : List Char} (hopen : '[' ∉ after)
    (hclose : ']' ∉ after) (hname : emojiName? after = none) :
    Settled (cs ++ after) ↔ Settled cs ∧ CodeFree after := by
  induction cut cs with
  | @text cs hcs =>
    have hhead : after.head? ≠ some '[' := fun h => hopen (List.mem_of_mem_head? h)
    have hescape : EscapeFree after := fun hwithin => hopen (hwithin.subset (by simp))
    rw [settled_text (hcs.append (.inr hclose) (tagless_of_not_mem hopen)), settled_text hcs,
      Unaltered, Unaltered, escapeFree_append (.inl hhead), codeFree_append cs hname,
      and_iff_left hescape, and_assoc]
  | @tag cs j body rest hcs hcs' hbody _ ih =>
    have h := settled_tag hcs hcs' j hbody (rest ++ after)
    rw [ih] at h
    rw [settled_tag hcs hcs' j hbody, and_assoc, and_assoc]
    simpa using h

/-- Backslashes at the end do not unsettle a text. -/
theorem settled_append_slashes (cs : List Char) (k : Nat) :
    Settled (cs ++ slashes k) ↔ Settled cs := by
  have hnot : ∀ c : Char, c ≠ '\\' → c ∉ slashes k := fun c hc hmem => hc (eq_of_mem_slashes hmem)
  have hcolon := hnot ':' (by decide)
  rw [settled_append cs (hnot '[' (by decide)) (hnot ']' (by decide))
    (emojiName?_of_not_mem hcolon)]
  exact and_iff_left (codeFree_of_not_mem hcolon)

/-! ## What the markup shows -/

/-- The text is shown as it is at the end of a line: a single backslash there is doubled. -/
def ShownAtEnd (cs : List Char) : Prop := Settled cs ∧ endSlashes cs ≠ 1

/-- The text is shown as it is before a tag: of several backslashes there only half are left, and an
odd number of them takes the tag for text. -/
def ShownBeforeTag (cs : List Char) : Prop := Settled cs ∧ endSlashes cs ≤ 1

instance : DecidablePred ShownAtEnd := fun cs =>
  inferInstanceAs (Decidable (Settled cs ∧ endSlashes cs ≠ 1))

instance : DecidablePred ShownBeforeTag := fun cs =>
  inferInstanceAs (Decidable (Settled cs ∧ endSlashes cs ≤ 1))

/-- A line that is shown is the one that is meant under a condition only: otherwise the two part, at
their ends at the latest. -/
def ShowsIf (p : Prop) (shown meant : List Char) : Prop :=
  (p → shown = meant) ∧ (¬ p → Text.Parted (shown ++ ['\n']) (meant ++ ['\n']))

/-- What an escaped text shows at the end of a line. -/
theorem showsIf_at_end {cs : List Char} (hcs : NoControl cs) :
    ShowsIf (ShownAtEnd cs) (visible (escapeChars cs)) cs := by
  obtain ⟨stem, k, rfl, hlast⟩ := exists_slashes cs
  have hstem : NoControl stem := (noControl_append.mp hcs).1
  rw [ShownAtEnd, escapeChars_append_slashes hlast, visible_escapeChars_append_slashes hlast,
    settled_append_slashes, endSlashes_append_slashes hlast]
  by_cases hsettled : Settled stem
  · rw [kept_eq hstem hsettled]
    constructor
    · rintro ⟨-, hk⟩
      rw [guarded, if_neg hk]
    · intro hnot
      obtain rfl : k = 1 := by
        by_contra hk
        exact hnot ⟨hsettled, hk⟩
      exact ⟨stem ++ ['\\'], '\\', '\n', ['\n'], [], by decide, by simp [guarded, slashes],
        by simp [slashes]⟩
  · refine ⟨fun h => absurd h.1 hsettled, fun _ => ?_⟩
    rw [List.append_assoc, List.append_assoc]
    exact (kept_parted hstem hsettled).append _ _

/-- Before a tag half of several backslashes are shown, and then the tag itself or what follows
it. -/
theorem exists_visible_bracket {k : Nat} (hk : ¬ k ≤ 1) {body after : List Char}
    (hcontrol : NoControl body) (hafter : (after ++ ['\n']).head? ≠ some '\\') :
    ∃ c cs, (Piece.bracket (guarded k) body).visible ++ after ++ ['\n'] =
      slashes (k / 2) ++ c :: cs ∧ c ≠ '\\' := by
  have hvisible : (Piece.bracket (guarded k) body).visible =
      slashes (k / 2) ++ if k % 2 = 1 then shown ('[' :: body ++ [']']) else [] := by
    rw [guarded, if_neg (by omega)]
    rfl
  rw [hvisible]
  by_cases hodd : k % 2 = 1
  · have hinside : NoControl ('[' :: (body ++ [']'])) :=
      List.forall_mem_cons.mpr ⟨rfl, noControl_append.mpr ⟨hcontrol, by decide⟩⟩
    obtain ⟨c, ds, hshown, hc⟩ := head?_shown hinside (by decide)
    exact ⟨c, ds ++ after ++ ['\n'], by simp [hodd, hshown], hc⟩
  · cases hall : after ++ ['\n'] with
    | nil => simp at hall
    | cons c ds =>
      rw [hall] at hafter
      exact ⟨c, ds, by simp [hodd, hall], by simpa using hafter⟩

/-- What an escaped text shows before a tag.  Of several backslashes there only half are shown, so
what is shown parts from the text unless it goes on with a backslash. -/
theorem showsIf_before_tag {cs body rest meant : List Char} {p : Prop} (hcs : NoControl cs)
    (hbody : IsTagBody body) (hcontrol : NoControl body) (hrest : ShowsIf p (visible rest) meant)
    (hnext : endSlashes cs ≤ 1 ∨ (visible rest ++ ['\n']).head? ≠ some '\\') :
    ShowsIf (ShownBeforeTag cs ∧ p)
      (visible (escapeChars cs ++ '[' :: (body ++ ']' :: rest))) (cs ++ meant) := by
  obtain ⟨stem, k, rfl, hlast⟩ := exists_slashes cs
  have hstem : NoControl stem := (noControl_append.mp hcs).1
  rw [endSlashes_append_slashes hlast] at hnext
  rw [ShownBeforeTag, escapeChars_append_slashes hlast, List.append_assoc,
    visible_escapeChars_append_tag hlast _ hbody, settled_append_slashes,
    endSlashes_append_slashes hlast]
  by_cases hsettled : Settled stem
  · rw [kept_eq hstem hsettled]
    by_cases hk : k ≤ 1
    · -- One backslash is doubled for the tag, and none is left as it is.
      have hslashes : (Piece.bracket (guarded k) body).visible = slashes k := by
        obtain rfl | rfl : k = 0 ∨ k = 1 := by omega
        · rfl
        · rfl
      rw [hslashes]
      constructor
      · rintro ⟨-, hp⟩
        rw [hrest.1 hp, List.append_assoc]
      · intro hnot
        have hparted := (hrest.2 fun hp => hnot ⟨⟨hsettled, hk⟩, hp⟩).append_left
          (stem ++ slashes k)
        simpa using hparted
    · refine ⟨fun h => absurd h.1.2 hk, fun _ => ?_⟩
      obtain ⟨c, ds, hshown, hc⟩ := exists_visible_bracket hk hcontrol (hnext.resolve_left hk)
      obtain ⟨n, hn⟩ : ∃ n, k = k / 2 + (n + 1) := ⟨k - k / 2 - 1, by omega⟩
      have hmeant : slashes k = slashes (k / 2) ++ '\\' :: slashes n := by
        conv => lhs; rw [hn]
        rw [slashes_add, slashes_succ]
      refine ⟨stem ++ slashes (k / 2), c, '\\', ds, slashes n ++ meant ++ ['\n'], hc, ?_, ?_⟩
      · simp only [List.append_assoc] at hshown ⊢
        rw [hshown]
      · rw [hmeant]
        simp
  · refine ⟨fun h => absurd h.1.1 hsettled, fun _ => ?_⟩
    simp only [List.append_assoc]
    exact (kept_parted hstem hsettled).append _ _

/-- What an escaped text shows, alone or before a tag, does not begin with a backslash unless the
text does. -/
theorem head?_visible {c : Char} {cs : List Char} (hcs : NoControl (c :: cs)) (hc : c ≠ '\\')
    {after : List Char} (hafter : after = [] ∨ ∃ body rest, IsTagBody body ∧
      after = '[' :: (body ++ ']' :: rest)) :
    ∃ d ds, visible (escapeChars (c :: cs) ++ after) = d :: ds ∧ d ≠ '\\' := by
  obtain ⟨stem, k, hstem, hlast⟩ := exists_slashes (c :: cs)
  obtain ⟨stem, rfl⟩ : ∃ cs, stem = c :: cs := by
    cases stem with
    | nil =>
      have hmem : c ∈ slashes k := by rw [← List.nil_append (slashes k), ← hstem]; simp
      exact absurd (eq_of_mem_slashes hmem) hc
    | cons d stem => exact ⟨stem, by rw [(List.cons.inj hstem).1]⟩
  rw [hstem] at hcs ⊢
  obtain ⟨d, ds, hkept, hd⟩ := head?_kept (noControl_append.mp hcs).1 hc
  rw [escapeChars_append_slashes hlast, List.append_assoc]
  rcases hafter with rfl | ⟨body, rest, hbody, rfl⟩
  · rw [List.append_nil, visible_escapeChars_append_slashes hlast, hkept]
    exact ⟨d, _, rfl, hd⟩
  · rw [visible_escapeChars_append_tag hlast _ hbody, hkept]
    exact ⟨d, _, rfl, hd⟩

/-! ## Lines -/

/-- A name of a style: its opening tag opens a tag, and its closing tag closes that one. -/
def IsStyle (name : List Char) : Prop :=
  IsTagBody name ∧ NoControl name ∧ ∃ tag : OpenTag,
    (∀ offset opened, applyTag name offset opened = .ok (tag :: opened)) ∧
      ∀ offset opened, applyTag ('/' :: name) offset (tag :: opened) = .ok opened

theorem IsStyle.close {name : List Char} (h : IsStyle name) :
    IsTagBody ('/' :: name) ∧ NoControl ('/' :: name) :=
  ⟨⟨rfl, h.1.ne_bracket⟩, List.forall_mem_cons.mpr ⟨rfl, h.2.1⟩⟩

/-- A name in normal form is a name of a style. -/
theorem isStyle_of_normalize {name : String} (hbody : IsTagBody name.toList)
    (hcontrol : NoControl name.toList) (hslash : name.toList.head? ≠ some '/')
    (hequals : '=' ∉ name.toList) (hstrip : Text.strip name = name)
    (hnormal : (StyleName.normalize name).toOption = some name) : IsStyle name.toList := by
  have hok := eq_ok_of_toOption hnormal
  have hname : name.toList.takeWhile (· != '=') = name.toList := by
    rw [List.takeWhile_eq_self_iff]
    intro c hc
    have hne : c ≠ '=' := fun h => hequals (h ▸ hc)
    simpa using hne
  have hne : name.isEmpty = false := by
    rw [String.isEmpty_eq_false_iff]
    rintro rfl
    exact hbody
  refine ⟨hbody, hcontrol, ⟨name, none⟩, fun offset opened => ?_, fun offset opened => ?_⟩
  · rw [applyTag, if_neg (by simpa using hslash), openTag, hname, String.ofList_toList, hok]
    simp [bind, Except.bind, pure, Except.pure, hequals]
  · rw [applyTag, if_pos (by simp), closeTag]
    simp [hname, hstrip, hne, hok, takeOut?, OpenTag.close, bind, Except.bind, pure,
      Except.pure]

namespace Line

/-- The texts of a line, its spans last, are shown as they are. -/
def ShownAsIs : String → List Span → Prop
  | lead, [] => ShownAtEnd lead.toList
  | lead, s :: spans =>
    ShownBeforeTag lead.toList ∧ ShownBeforeTag s.inner.toList ∧ ShownAsIs s.after spans

/-- No backslash stands before a tag that opens a style, and none follows a style that may have
several before its end. -/
def IsSound : String → List Span → Prop
  | _, [] => True
  | lead, s :: spans => endSlashes lead.toList = 0 ∧ IsStyle s.style.toList ∧
      (endSlashes s.inner.toList ≤ 1 ∨
        s.after.toList.head? ≠ some '\\' ∧ (s.after = "" → spans = [])) ∧
      IsSound s.after spans

theorem toList_text_cons (lead : String) (s : Span) (spans : List Span) :
    (Line.mk lead (s :: spans)).text.toList =
      lead.toList ++ (s.inner.toList ++ (Line.mk s.after spans).text.toList) := by
  simp [text, String.toList_append]

theorem toList_markup_nil (lead : String) :
    (Line.mk lead []).markup.toList = escapeChars lead.toList := by
  simp [markup, escape_eq]

theorem toList_markup_cons (lead : String) (s : Span) (spans : List Span) :
    (Line.mk lead (s :: spans)).markup.toList =
      escapeChars lead.toList ++ '[' :: (s.style.toList ++ ']' ::
        (escapeChars s.inner.toList ++ '[' :: ('/' :: s.style.toList ++ ']' ::
          (Line.mk s.after spans).markup.toList))) := by
  simp [markup, Span.markup, escape_eq, String.toList_append]

theorem noControl_cons {lead style inner after : String} {spans : List Span} :
    NoControl (Line.mk lead (⟨style, inner, after⟩ :: spans)).text.toList ↔
      NoControl lead.toList ∧ NoControl inner.toList ∧
        NoControl (Line.mk after spans).text.toList := by
  rw [toList_text_cons, noControl_append, noControl_append]

theorem noControl_nil {lead : String} :
    NoControl (Line.mk lead []).text.toList ↔ NoControl lead.toList := by
  simp [text]

theorem noControl_lead {lead : String} {spans : List Span}
    (h : NoControl (Line.mk lead spans).text.toList) : NoControl lead.toList := by
  rw [text, String.toList_append, noControl_append] at h
  exact h.1

/-- A line that begins with text other than a backslash shows something else first, too. -/
theorem head?_visible_markup {lead : String} {spans : List Span} (hsound : IsSound lead spans)
    (hcontrol : NoControl (Line.mk lead spans).text.toList) (hhead : lead.toList.head? ≠ some '\\')
    (hempty : lead = "" → spans = []) :
    (visible (Line.mk lead spans).markup.toList ++ ['\n']).head? ≠ some '\\' := by
  have hlead := noControl_lead hcontrol
  cases hchars : lead.toList with
  | nil =>
    obtain rfl := String.toList_eq_nil_iff.mp hchars
    obtain rfl := hempty rfl
    have hvisible : visible (escapeChars "".toList) = [] := rfl
    rw [toList_markup_nil, hvisible]
    simp
  | cons c cs =>
    rw [hchars] at hhead hlead
    have hc : c ≠ '\\' := by simpa using hhead
    have hmarkup : ∃ after, (Line.mk lead spans).markup.toList = escapeChars (c :: cs) ++ after ∧
        (after = [] ∨ ∃ body rest, IsTagBody body ∧ after = '[' :: (body ++ ']' :: rest)) := by
      cases spans with
      | nil => exact ⟨[], by rw [toList_markup_nil, hchars, List.append_nil], .inl rfl⟩
      | cons s spans =>
        rw [toList_markup_cons, hchars]
        exact ⟨_, rfl, .inr ⟨_, _, hsound.2.1.1, rfl⟩⟩
    obtain ⟨after, hmarkup, hafter⟩ := hmarkup
    obtain ⟨d, ds, hvisible, hd⟩ := head?_visible hlead hc hafter
    rw [hmarkup, hvisible]
    simpa using hd

/-- The markup of a line shows its text exactly if all texts in it are shown as they are. -/
theorem showsIf {lead : String} {spans : List Span} (hsound : IsSound lead spans)
    (hcontrol : NoControl (Line.mk lead spans).text.toList) :
    ShowsIf (ShownAsIs lead spans) (visible (Line.mk lead spans).markup.toList)
      (Line.mk lead spans).text.toList := by
  induction spans generalizing lead with
  | nil =>
    have htext : (Line.mk lead []).text = lead := by simp [text]
    rw [toList_markup_nil, htext]
    exact showsIf_at_end (noControl_lead hcontrol)
  | cons s spans ih =>
    obtain ⟨hlead, hinner, hafter⟩ := noControl_cons.mp hcontrol
    obtain ⟨hslashes, hstyle, hnext, hsound⟩ := hsound
    have hnext' : endSlashes s.inner.toList ≤ 1 ∨
        (visible (Line.mk s.after spans).markup.toList ++ ['\n']).head? ≠ some '\\' :=
      hnext.imp_right fun ⟨hhead, hempty⟩ => head?_visible_markup hsound hafter hhead hempty
    rw [toList_markup_cons, toList_text_cons]
    exact showsIf_before_tag hlead hstyle.1 hstyle.2.1
      (showsIf_before_tag hinner hstyle.close.1 hstyle.close.2 (ih hsound hafter) hnext')
      (.inl (by omega))

end Line

end FenceLint.Markup
