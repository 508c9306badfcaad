import FenceLint.Proofs.Markup.Line
import FenceLint.Proofs.Text.Numeral

/-!
# Texts in templates

A text is often shown between words that are fixed.  Words without brackets and backslashes need no
escaping, and they change neither how the text is escaped nor whether it is shown as it is.  So of a
line only the texts that are not fixed matter (`Line.ShownIff`).
-/

namespace FenceLint.Markup

/-! ## Escaping in front of and behind words -/

theorem not_endsWith_slash_append {before cs : List Char} (hbefore : '\\' ∉ before)
    (hcs : cs.getLast? ≠ some '\\') : (before ++ cs).getLast? ≠ some '\\' := by
  intro h
  rw [List.getLast?_append] at h
  cases hlast : cs.getLast? with
  | none =>
    rw [hlast, Option.none_or] at h
    exact hbefore (List.mem_of_getLast? h)
  | some c =>
    rw [hlast, Option.some_or] at h
    exact hcs (hlast.trans h)

/-- Words before a text are not escaped. -/
theorem escapeChars_append_left {before : List Char} (hopen : '[' ∉ before)
    (hslash : '\\' ∉ before) (cs : List Char) :
    escapeChars (before ++ cs) = before ++ escapeChars cs := by
  cases cut cs with
  | text hcs =>
    obtain ⟨stem, k, rfl, hlast⟩ := exists_slashes cs
    have hstem := hcs.of_append_left
    rw [escapeChars_text hstem hlast, ← List.append_assoc, ← List.append_assoc]
    exact escapeChars_text ((tagless_append_iff hopen).mpr hstem)
      (not_endsWith_slash_append hslash hlast) k
  | @tag cs k body rest hcs hlast hbody hrest =>
    have h := escapeChars_tag ((tagless_append_iff hopen).mpr hcs)
      (not_endsWith_slash_append hslash hlast) k hbody rest
    rw [escapeChars_tag hcs hlast k hbody]
    simpa using h

/-- Words are not escaped. -/
theorem escapeChars_eq {cs : List Char} (hopen : '[' ∉ cs) (hslash : '\\' ∉ cs) :
    escapeChars cs = cs := by
  simpa [escapeChars, pieces, piecesFrom, flush, guardEnd] using
    escapeChars_append_left hopen hslash []

/-- Words behind a text are not escaped. -/
theorem escapeChars_append_right {cs : List Char} (hlast : cs.getLast? ≠ some '\\')
    {after : List Char} (hopen : '[' ∉ after) (hclose : ']' ∉ after) (hslash : '\\' ∉ after) :
    escapeChars (cs ++ after) = escapeChars cs ++ after := by
  have hafter : after.getLast? ≠ some '\\' := fun h => hslash (List.mem_of_getLast? h)
  induction cut cs with
  | @text cs hcs =>
    have htagless := hcs.append (.inr hclose) (tagless_of_not_mem hopen)
    have hlast' : (cs ++ after).getLast? ≠ some '\\' := by
      cases after with
      | nil => simpa using hlast
      | cons c after => simpa [List.getLast?_append, List.getLast?_cons] using hafter
    have hcs' := escapeChars_text hcs hlast 0
    have hboth := escapeChars_text htagless hlast' 0
    rw [show guarded 0 = 0 from rfl, slashes_zero] at hcs' hboth
    simp only [List.append_nil] at hcs' hboth
    rw [hcs', hboth]
  | @tag cs k body rest hcs hcs' hbody _ ih =>
    have h := escapeChars_tag hcs hcs' k hbody (rest ++ after)
    rw [ih (getLast?_of_tag hlast)] at h
    rw [escapeChars_tag hcs hcs' k hbody]
    simpa using h

/-! ## Settled texts in templates -/

/-- Words before a text do not unsettle it. -/
theorem settled_append_left {before : List Char} (hopen : '[' ∉ before) (hslash : '\\' ∉ before)
    (hcolon : ':' ∉ before) (cs : List Char) : Settled (before ++ cs) ↔ Settled cs := by
  have hunaltered : ∀ cs, Unaltered (before ++ cs) ↔ Unaltered cs := by
    intro cs
    have hescape : EscapeFree before := fun hwithin => hopen (hwithin.subset (by simp))
    have hparts : ∀ p ∈ before.map EmojiPart.char, p.IsPlain := by simp [EmojiPart.IsPlain]
    have hcode : CodeFree (before ++ cs) ↔ CodeFree cs := by
      rw [CodeFree, emojiParts_append_of_not_mem hcolon, List.forall_mem_append]
      exact and_iff_right hparts
    rw [Unaltered, escapeFree_append (.inr hslash), hcode, and_iff_right hescape]
    rfl
  cases cut cs with
  | text hcs => rw [settled_text ((tagless_append_iff hopen).mpr hcs), settled_text hcs, hunaltered]
  | @tag cs k body rest hcs hlast hbody hrest =>
    have h := settled_tag ((tagless_append_iff hopen).mpr hcs)
      (not_endsWith_slash_append hslash hlast) k hbody rest
    rw [hunaltered] at h
    rw [settled_tag hcs hlast k hbody, ← h, List.append_assoc]

/-- Words are settled if there is no code in them. -/
theorem settled_iff_codeFree {cs : List Char} (hopen : '[' ∉ cs) : Settled cs ↔ CodeFree cs := by
  have hescape : EscapeFree cs := fun hwithin => hopen (hwithin.subset (by simp))
  rw [settled_text (tagless_of_not_mem hopen), Unaltered, and_iff_right hescape]

/-- One colon makes no code. -/
theorem codeFree_of_colon {cs ds : List Char} (hcs : ':' ∉ cs) (hds : ':' ∉ ds) :
    CodeFree (cs ++ ':' :: ds) := by
  rw [CodeFree, emojiParts_append_of_not_mem hcs,
    emojiParts_char fun _ => emojiName?_of_not_mem hds, List.forall_mem_append,
    List.forall_mem_cons]
  exact ⟨by simp [EmojiPart.IsPlain], trivial, codeFree_of_not_mem hds⟩

theorem endSlashes_append_left {before : List Char} (hslash : '\\' ∉ before) (cs : List Char) :
    endSlashes (before ++ cs) = endSlashes cs := by
  obtain ⟨stem, k, rfl, hlast⟩ := exists_slashes cs
  rw [← List.append_assoc, endSlashes_append_slashes (not_endsWith_slash_append hslash hlast),
    endSlashes_append_slashes hlast]

theorem endSlashes_eq_zero {cs : List Char} (hlast : cs.getLast? ≠ some '\\') :
    endSlashes cs = 0 := by
  simpa using endSlashes_append_slashes hlast 0

/-! ## Words -/

/-- The text has no brackets and no backslashes, and all of it is shown. -/
def IsWords (s : String) : Prop :=
  ∀ c ∈ s.toList, c ≠ '[' ∧ c ≠ ']' ∧ c ≠ '\\' ∧ isControl c = false

instance : DecidablePred IsWords := fun s => List.decidableBAll _ s.toList

theorem isWords_append {s t : String} : IsWords (s ++ t) ↔ IsWords s ∧ IsWords t := by
  rw [IsWords, String.toList_append]
  exact List.forall_mem_append

namespace IsWords

variable {s : String}

theorem not_mem (h : IsWords s) : '[' ∉ s.toList ∧ ']' ∉ s.toList ∧ '\\' ∉ s.toList :=
  ⟨fun hmem => (h _ hmem).1 rfl, fun hmem => (h _ hmem).2.1 rfl, fun hmem => (h _ hmem).2.2.1 rfl⟩

theorem noControl (h : IsWords s) : NoControl s.toList := fun c hc => (h c hc).2.2.2

theorem escape_append (h : IsWords s) (t : String) : escape (s ++ t) = s ++ escape t := by
  rw [escape_eq, String.toList_append, escapeChars_append_left h.not_mem.1 h.not_mem.2.2,
    String.ofList_append, String.ofList_toList, escape_eq]

theorem escape_eq (h : IsWords s) : escape s = s := by
  rw [Markup.escape_eq, escapeChars_eq h.not_mem.1 h.not_mem.2.2, String.ofList_toList]

theorem escape_append_right (h : IsWords s) {t : String} (ht : t.toList.getLast? ≠ some '\\') :
    escape (t ++ s) = escape t ++ s := by
  rw [Markup.escape_eq, String.toList_append,
    escapeChars_append_right ht h.not_mem.1 h.not_mem.2.1 h.not_mem.2.2, String.ofList_append,
    String.ofList_toList, Markup.escape_eq]

theorem endSlashes_eq (h : IsWords s) : endSlashes s.toList = 0 :=
  endSlashes_eq_zero fun hlast => h.not_mem.2.2 (List.mem_of_getLast? hlast)

theorem endSlashes_append (h : IsWords s) (t : String) :
    endSlashes (s ++ t).toList = endSlashes t.toList := by
  rw [String.toList_append]
  exact endSlashes_append_left h.not_mem.2.2 _

/-! Words in brackets have the form of a tag. -/

theorem isTagBody (h : IsWords s) (hstarts : s.toList.head?.any startsTag = true) :
    IsTagBody s.toList := by
  rw [IsWords] at h
  cases hs : s.toList with
  | nil => simp [hs] at hstarts
  | cons c cs =>
    rw [hs] at h hstarts
    exact ⟨by simpa using hstarts, fun d hd =>
      ⟨(h d (by simp [hd])).2.1, (h d (by simp [hd])).1⟩⟩

theorem escape_brackets (h : IsWords s) (hstarts : s.toList.head?.any startsTag = true) :
    escape ("[" ++ s ++ "]") = "\\[" ++ s ++ "]" := by
  have hempty : Tagless [] := tagless_of_not_mem (by simp)
  have htag := escapeChars_tag hempty (by simp) 0 (h.isTagBody hstarts) []
  rw [show escapeChars [] = [] from rfl] at htag
  rw [Markup.escape_eq, String.toList_append, String.toList_append, ← String.toList_inj,
    String.toList_ofList]
  simpa [String.toList_append, slashes] using htag

end IsWords

/-- The words hold no colon either, so that no code begins or ends in them. -/
def IsPlainWords (s : String) : Prop := IsWords s ∧ ':' ∉ s.toList

instance : DecidablePred IsPlainWords := fun s =>
  inferInstanceAs (Decidable (IsWords s ∧ ':' ∉ s.toList))

theorem isPlainWords_append {s t : String} :
    IsPlainWords (s ++ t) ↔ IsPlainWords s ∧ IsPlainWords t := by
  rw [IsPlainWords, isWords_append, String.toList_append, List.mem_append, not_or]
  exact and_and_and_comm

/-- The characters that plain words do not hold. -/
def markChars : List Char := ['[', ']', '\\', ':', '\x07', '\x08', '\x0b', '\x0c', '\r']

theorem isPlainWords_of_not_mem {s : String} (h : ∀ c ∈ markChars, c ∉ s.toList) :
    IsPlainWords s := by
  refine ⟨fun c hc => ?_, h ':' (by decide)⟩
  have hne : ∀ d ∈ markChars, c ≠ d := by
    rintro d hd rfl
    exact h c hd hc
  simp only [markChars, List.forall_mem_cons] at hne
  simp [isControl, hne]

theorem isPlainWords_int (n : Int) : IsPlainWords (toString n) := by
  have hmarks : markChars.all (fun c => c != '-' && !c.isDigit) = true := by decide
  refine isPlainWords_of_not_mem fun c hc hmem => ?_
  have hmark := List.all_eq_true.mp hmarks c hc
  rcases Text.of_mem_toString hmem with rfl | hdigit
  · exact absurd hmark (by decide)
  · simp [hdigit] at hmark

theorem isPlainWords_nat (n : Nat) : IsPlainWords (toString n) := isPlainWords_int n

/-- The text is shown as it is wherever it stands. -/
structure Fits (s : String) : Prop where
  noControl : NoControl s.toList
  settled : Settled s.toList
  endSlashes_eq : endSlashes s.toList = 0

theorem Fits.shownBeforeTag {s : String} (h : Fits s) : ShownBeforeTag s.toList :=
  ⟨h.settled, h.endSlashes_eq ▸ Nat.zero_le 1⟩

/-- Brackets do not matter: a text without backslashes and colons is shown as it is. -/
theorem fits_of_not_mem {s : String} (hcontrol : NoControl s.toList) (hslash : '\\' ∉ s.toList)
    (hcolon : ':' ∉ s.toList) : Fits s := by
  have hlast := endSlashes_eq_zero fun hlast => hslash (List.mem_of_getLast? hlast)
  refine ⟨hcontrol, fun p hp => ?_, hlast⟩
  have hinside : ∀ c ∈ p.inside, c ∈ s.toList := by
    intro c hc
    obtain ⟨before, -, hchars⟩ := p.visible_escaped
    rw [← flatMap_pieces s.toList]
    exact List.mem_flatMap.mpr ⟨p, hp, by rw [hchars]; exact List.mem_append_right _ hc⟩
  have hescape : EscapeFree p.inside := fun hwithin =>
    hslash (hinside _ (hwithin.subset (by simp)))
  exact ⟨hescape, codeFree_of_not_mem fun hmem => hcolon (hinside _ hmem)⟩

theorem IsWords.fits {s : String} (h : IsWords s) (hcode : CodeFree s.toList) : Fits s :=
  ⟨h.noControl, (settled_iff_codeFree h.not_mem.1).mpr hcode, h.endSlashes_eq⟩

namespace IsPlainWords

variable {s t : String}

theorem fits (h : IsPlainWords s) : Fits s :=
  fits_of_not_mem h.1.noControl h.1.not_mem.2.2 h.2

/-- One colon between words makes no code. -/
theorem colon (hs : IsPlainWords s) (ht : IsPlainWords t) :
    IsWords (s ++ ":" ++ t) ∧ Fits (s ++ ":" ++ t) := by
  have hwords : IsWords (s ++ ":" ++ t) :=
    isWords_append.mpr ⟨isWords_append.mpr ⟨hs.1, by decide⟩, ht.1⟩
  refine ⟨hwords, hwords.fits ?_⟩
  have hcode := codeFree_of_colon hs.2 ht.2
  simpa [String.toList_append] using hcode

/-- Words before a text do not matter for it. -/
theorem settled_append (h : IsPlainWords s) (t : String) :
    Settled (s ++ t).toList ↔ Settled t.toList := by
  rw [String.toList_append]
  exact settled_append_left h.1.not_mem.1 h.1.not_mem.2.2 h.2 _

theorem shownAtEnd_append (h : IsPlainWords s) (t : String) :
    ShownAtEnd (s ++ t).toList ↔ ShownAtEnd t.toList := by
  rw [ShownAtEnd, h.settled_append, h.1.endSlashes_append]
  rfl

end IsPlainWords

namespace Line

variable {lead style inner after : String} {spans : List Span} {p q : Prop}

theorem markup_nil (lead : String) : (Line.mk lead []).markup = escape lead := by
  simp [markup]

theorem markup_cons (lead style inner after : String) (spans : List Span) :
    (Line.mk lead (⟨style, inner, after⟩ :: spans)).markup = escape lead ++
      ("[" ++ style ++ "]" ++ escape inner ++ "[/" ++ style ++ "]" ++
        (Line.mk after spans).markup) := by
  simp [markup, Span.markup, String.append_assoc]

/-- The line can be written as markup, and its texts are shown as they are under a condition. -/
structure ShownIff (lead : String) (spans : List Span) (p : Prop) : Prop where
  isSound : IsSound lead spans
  noControl : NoControl (Line.mk lead spans).text.toList
  shownAsIs : ShownAsIs lead spans ↔ p

namespace ShownIff

theorem congr (h : ShownIff lead spans p) (hpq : p ↔ q) : ShownIff lead spans q :=
  ⟨h.isSound, h.noControl, h.shownAsIs.trans hpq⟩

/-- A text that fits at the end of a line. -/
theorem fixed (hlead : Fits lead) : ShownIff lead [] True :=
  ⟨trivial, noControl_nil.mpr hlead.noControl,
    iff_of_true ⟨hlead.settled, hlead.endSlashes_eq ▸ Nat.zero_ne_one⟩ trivial⟩

/-- Any text at the end of a line, behind words. -/
theorem atEnd {before text : String} (hbefore : IsPlainWords before)
    (htext : NoControl text.toList) : ShownIff (before ++ text) [] (ShownAtEnd text.toList) := by
  refine ⟨trivial, noControl_nil.mpr ?_, hbefore.shownAtEnd_append text⟩
  rw [String.toList_append, noControl_append]
  exact ⟨hbefore.1.noControl, htext⟩

/-- A text that fits in a style. -/
theorem cons (hlead : Fits lead) (hstyle : IsStyle style.toList) (hinner : Fits inner)
    (h : ShownIff after spans p) : ShownIff lead (⟨style, inner, after⟩ :: spans) p where
  isSound :=
    ⟨hlead.endSlashes_eq, hstyle, .inl (hinner.endSlashes_eq ▸ Nat.zero_le 1), h.isSound⟩
  noControl := noControl_cons.mpr ⟨hlead.noControl, hinner.noControl, h.noControl⟩
  shownAsIs := by
    rw [ShownAsIs, and_iff_right hlead.shownBeforeTag, and_iff_right hinner.shownBeforeTag,
      h.shownAsIs]

/-- Any text in the last style of a line. -/
theorem last (hlead : Fits lead) (hstyle : IsStyle style.toList) (hinner : NoControl inner.toList)
    (hafter : after.toList.head? ≠ some '\\') (h : ShownIff after [] p) :
    ShownIff lead [⟨style, inner, after⟩] (ShownBeforeTag inner.toList ∧ p) where
  isSound := ⟨hlead.endSlashes_eq, hstyle, .inr ⟨hafter, fun _ => rfl⟩, trivial⟩
  noControl := noControl_cons.mpr ⟨hlead.noControl, hinner, h.noControl⟩
  shownAsIs := by
    rw [ShownAsIs, and_iff_right hlead.shownBeforeTag, h.shownAsIs]

/-- The markup of the line shows its text exactly under the condition. -/
theorem showsIf (h : ShownIff lead spans p) :
    ShowsIf p (visible (Line.mk lead spans).markup.toList) (Line.mk lead spans).text.toList := by
  rw [← h.shownAsIs]
  exact Line.showsIf h.isSound h.noControl

end ShownIff

end Line

end FenceLint.Markup
