import FenceLint.Markdown.Document
import FenceLint.Proofs.Text.Rows

/-!
# What containers see of a document

Quotes and list items consume markers from the left of their lines and leave everything else in its
place.  `Tracks doc lines` states this for the lines of a region: line `i` is still cut from the end
of row `i` of the document, and still knows whether a line feed ended it.  The invariant holds when
a document is cut into lines, and every container keeps it.
-/

namespace FenceLint.Markdown

open Text

/-- What is left of a line is an end of the row `d`. -/
structure Line.Within (d : List Char) (l : Line) : Prop where
  text : l.text <:+ d
  body : l.body <:+ d

/-- The lines show the rows of a document, each in its place. -/
structure Tracks (doc : List (List Char)) (lines : Array Line) : Prop where
  rows : ∀ i, '\n' ∉ doc.getD i []
  size_le : lines.size ≤ doc.length
  within : ∀ i, (lines.getD i .afterEnd).Within (doc.getD i [])
  newline : ∀ i, i + 1 < lines.size → (lines.getD i .afterEnd).newline = true

/-- Reading the lines after one of them was replaced. -/
theorem getD_setIfInBounds (lines : Array Line) (i j : Nat) (l : Line) :
    (lines.setIfInBounds i l).getD j .afterEnd =
      if i = j ∧ i < lines.size then l else lines.getD j .afterEnd := by
  rw [Array.getD_eq_getD_getElem?, Array.getElem?_setIfInBounds, Array.getD_eq_getD_getElem?]
  by_cases hij : i = j
  · subst hij
    by_cases hi : i < lines.size <;> simp [hi]
  · simp [hij]

/-- A line may be replaced by one that shows less of the same row. -/
theorem Tracks.set {doc : List (List Char)} {lines : Array Line} (h : Tracks doc lines) {i : Nat}
    {l : Line} (hl : l.Within (doc.getD i [])) (hnewline : i + 1 < lines.size → l.newline = true) :
    Tracks doc (lines.setIfInBounds i l) := by
  refine ⟨h.rows, by simpa using h.size_le, ?_, ?_⟩
  · intro j
    rw [getD_setIfInBounds]
    split
    · next hij => rw [← hij.1]; exact hl
    · exact h.within j
  · intro j hj
    rw [Array.size_setIfInBounds] at hj
    rw [getD_setIfInBounds]
    split
    · next hij => exact hnewline (hij.1 ▸ hj)
    · exact h.newline j hj

/-- Rows without a line do not matter. -/
theorem Tracks.take {doc : List (List Char)} {lines : Array Line} (h : Tracks doc lines) :
    Tracks (doc.take lines.size) lines := by
  have hrow : ∀ i, (doc.take lines.size).getD i [] =
      if i < lines.size then doc.getD i [] else [] := by
    intro i
    rw [List.getD_eq_getElem?_getD, List.getElem?_take, List.getD_eq_getElem?_getD]
    split <;> rfl
  refine ⟨?_, ?_, ?_, h.newline⟩
  · intro i
    rw [hrow]
    split
    · exact h.rows i
    · exact List.not_mem_nil
  · have := h.size_le
    rw [List.length_take]
    omega
  · intro i
    rw [hrow]
    by_cases hi : i < lines.size
    · rw [if_pos hi]
      exact h.within i
    · rw [if_neg hi, Array.getD_eq_getD_getElem?, Array.getElem?_eq_none (by omega)]
      exact ⟨List.nil_suffix, List.nil_suffix⟩

/-! ## Quotes -/

/-- Skipping the indentation after a quote marker stays within the row. -/
theorem Line.within_after {d : List Char} (l : Line) {text : List Char} (h : text <:+ d)
    (col shift space : Nat) : (Line.unquote.after l text col shift space).Within d :=
  ⟨h, (skipIndent_suffix _ _ text).trans h⟩

/-- A line without its quote marker shows an end of the same row. -/
theorem Line.Within.unquote {d : List Char} {l : Line} (h : l.Within d) : l.unquote.Within d := by
  have hbody := h.body
  rw [Line.unquote]
  split
  · next cs hl =>
    rw [hl] at hbody
    exact l.within_after (((List.suffix_cons _ _).trans (List.suffix_cons _ _)).trans hbody) _ _ _
  · next cs hl =>
    rw [hl] at hbody
    have htab : '\t' :: cs <:+ d := (List.suffix_cons _ _).trans hbody
    split
    · exact l.within_after ((List.suffix_cons _ _).trans htab) _ _ _
    · exact l.within_after htab _ _ _
  · next cs _ _ hl =>
    rw [hl] at hbody
    exact l.within_after ((List.suffix_cons _ _).trans hbody) _ _ _
  · exact h

/-- Consuming a quote marker does not touch the end of the line. -/
theorem Line.newline_unquote (l : Line) : l.unquote.newline = l.newline := by
  rw [Line.unquote]
  split
  · rfl
  · split <;> rfl
  · rfl
  · rfl

/-- Gathering the lines of a quote keeps them in their places, and ends inside the region. -/
theorem Region.quoted_go_spec {doc : List (List Char)} {r : Region} (hr : Tracks doc r.lines)
    (n i : Nat) (after : Bool) (lines : Array Line) (hlines : Tracks doc lines)
    (hsize : lines.size = r.lines.size) :
    Tracks doc (quoted.go r n i after lines).lines ∧
      (quoted.go r n i after lines).lines.size = r.lines.size ∧
      (quoted.go r n i after lines).stop ≤ i + n := by
  induction n generalizing i after lines with
  | zero => exact ⟨hlines, hsize, Nat.le_refl _⟩
  | succ n ih =>
    have hstop : Tracks doc lines ∧ lines.size = r.lines.size ∧ i ≤ i + (n + 1) :=
      ⟨hlines, hsize, Nat.le_add_right _ _⟩
    -- The loop goes on with line `i` replaced by one that shows less of it.
    have hstep : ∀ after' l, l.Within (doc.getD i []) → l.newline = (r.line i).newline →
        Tracks doc (quoted.go r n (i + 1) after' (lines.setIfInBounds i l)).lines ∧
          (quoted.go r n (i + 1) after' (lines.setIfInBounds i l)).lines.size = r.lines.size ∧
          (quoted.go r n (i + 1) after' (lines.setIfInBounds i l)).stop ≤ i + (n + 1) := by
      intro after' l hl hnewline
      have hset : Tracks doc (lines.setIfInBounds i l) :=
        hlines.set hl fun hi => hnewline.trans (hr.newline i (hsize ▸ hi))
      obtain ⟨htracks, hsize', hle⟩ := ih (i + 1) after' _ hset (by simpa using hsize)
      exact ⟨htracks, hsize', by omega⟩
    rw [quoted.go]
    split
    · exact hstop
    · split
      · exact hstep _ _ (hr.within i).unquote (Line.newline_unquote _)
      · split
        · exact hstop
        · split
          · exact hstop
          · exact hstep _ _ ⟨(hr.within i).text, (hr.within i).body⟩ rfl

/-! ## Lists -/

/-- What follows a list marker is an end of the line. -/
theorem Marker.suffix_of_read? {cs rest : List Char} {m : Marker}
    (h : Marker.read? cs = some (m, rest)) : rest <:+ cs := by
  have hdrop : cs.dropWhile Char.isDigit <:+ cs := List.dropWhile_suffix _
  simp only [Marker.read?] at h
  split at h
  · next c tail _ hc =>
    rw [hc] at hdrop
    split at h
    · obtain ⟨-, rfl⟩ : _ ∧ tail = rest := by simpa using h
      exact (List.suffix_cons _ _).trans hdrop
    · simp at h
  · next _ _ c tail _ hc =>
    rw [hc] at hdrop
    split at h
    · obtain ⟨-, rfl⟩ : _ ∧ tail = rest := by simpa using h
      exact (List.suffix_cons _ _).trans hdrop
    · simp at h
  · simp at h

/-- What follows the marker of an item is an end of the item's line. -/
theorem Region.suffix_of_marker? {r : Region} {i : Nat} {m : Marker} {rest : List Char}
    (h : r.marker? i = some (m, rest)) : rest <:+ r.body i := by
  rw [Region.marker?] at h
  split at h
  · simp at h
  · split at h
    · split at h
      · simp at h
      · exact Marker.suffix_of_read? h
    · exact Marker.suffix_of_read? h

/-- What follows the marker of a further item is an end of that item's line, which stands in the
region. -/
theorem Region.suffix_of_nextMarker? {r : Region} {first m : Marker} {i : Nat} {rest : List Char}
    (h : r.nextMarker? first i = some (m, rest)) : i < r.stop ∧ rest <:+ r.body i := by
  rw [Region.nextMarker?] at h
  split at h
  · simp at h
  · next hi =>
    have hread := Option.eq_some_of_filter_eq_some h
    refine ⟨?_, Marker.suffix_of_read? hread⟩
    rcases Nat.lt_or_ge i r.stop with hlt | hge
    · exact hlt
    · simp [hge] at hi

/-- A line without its list marker shows an end of the same row. -/
theorem Line.Within.unlist {d : List Char} {l : Line} (h : l.Within d) (m : Marker)
    {rest : List Char} (hrest : rest <:+ l.body) : (l.unlist m rest).1.Within d :=
  ⟨h.text, ((skipIndent_suffix _ _ rest).trans hrest).trans h.body⟩

/-! ## Regions -/

/-- The region shows the rows of a document and ends inside it. -/
structure Region.Follows (doc : List (List Char)) (r : Region) : Prop where
  tracks : Tracks doc r.lines
  stop_le : r.stop ≤ r.lines.size

/-- A document shows its own rows. -/
theorem Region.follows_ofLines (text : String) :
    (Region.ofLines (linesOf text)).Follows (rows (normalize text.toList)) := by
  have hcut : (linesOf text).toList = (cutLines (normalize text.toList)).map fun p =>
      Line.ofChars p.1 p.2 := by simp [linesOf]
  have hsize : (linesOf text).size = (cutLines (normalize text.toList)).length := by
    rw [← Array.length_toList, hcut, List.length_map]
  have hprefix := cutLines_prefix_rows (normalize text.toList)
  have hget : ∀ i, (linesOf text).getD i .afterEnd =
      (((cutLines (normalize text.toList))[i]?).map fun p => Line.ofChars p.1 p.2).getD
        .afterEnd := by
    intro i
    rw [Array.getD_eq_getD_getElem?, ← Array.getElem?_toList, hcut, List.getElem?_map]
  refine ⟨⟨?_, ?_, ?_, ?_⟩, Nat.le_refl _⟩
  · intro i
    rw [List.getD_eq_getElem?_getD]
    cases hi : (rows (normalize text.toList))[i]? with
    | none => simp
    | some d => exact newline_not_mem_of_mem_rows (List.mem_of_getElem? hi)
  · simpa [Region.ofLines, hsize] using hprefix.length_le
  · intro i
    rw [Region.ofLines, hget]
    cases hi : (cutLines (normalize text.toList))[i]? with
    | none => exact ⟨List.nil_suffix, List.nil_suffix⟩
    | some p =>
      have hrow : (rows (normalize text.toList))[i]? = some p.1 := by
        obtain ⟨rest, hrest⟩ := hprefix
        have hlt := (List.getElem?_eq_some_iff.mp hi).1
        rw [← hrest, List.getElem?_append_left (by simpa using hlt), List.getElem?_map, hi]
        rfl
      rw [List.getD_eq_getElem?_getD, hrow]
      exact ⟨List.suffix_refl _, skipIndent_suffix _ _ _⟩
  · intro i hi
    rw [Region.ofLines, hsize] at hi
    rw [Region.ofLines, hget, List.getElem?_eq_getElem (by omega)]
    exact newline_of_getElem?_cutLines (List.getElem?_eq_getElem (by omega)) hi

/-- The region inside a quote. -/
theorem Region.Follows.insideQuote {doc : List (List Char)} {r : Region} (hr : r.Follows doc)
    {i : Nat} (hi : i < r.stop) : (r.insideQuote i).Follows doc := by
  have hfirst : Tracks doc (r.lines.setIfInBounds i (r.line i).unquote) :=
    hr.tracks.set (hr.tracks.within i).unquote fun h =>
      (Line.newline_unquote _).trans (hr.tracks.newline i h)
  obtain ⟨htracks, hsize, hstop⟩ := quoted_go_spec hr.tracks (r.stop - (i + 1)) (i + 1)
    (r.line i).unquote.isBlank _ hfirst (by simp)
  refine ⟨htracks, ?_⟩
  have hle := hr.stop_le
  show (quoted.go r _ _ _ _).stop ≤ (quoted.go r _ _ _ _).lines.size
  omega

/-- The region inside a list item, whose first line lost its marker. -/
theorem Region.Follows.insideItem {doc : List (List Char)} {r : Region} (hr : r.Follows doc)
    {i : Nat} (m : Marker) {rest : List Char} (hrest : rest <:+ r.body i) (margin : Nat)
    (listMargin : Option Nat) :
    Region.Follows doc { r with
      lines := r.lines.setIfInBounds i ((r.line i).unlist m rest).1, margin, listMargin } :=
  ⟨hr.tracks.set ((hr.tracks.within i).unlist m hrest) (hr.tracks.newline i),
    by simpa using hr.stop_le⟩

end FenceLint.Markdown
