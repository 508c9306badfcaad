import FenceLint.Text.Case

/-!
# Lower case

Taking a text to lower case makes no character blank and none visible, so a text is blank exactly
when its lower case is (`isBlankText_lower`).  Beyond ASCII this is a fact about the tables: the
runs of letters that have a lower case do not meet the ranges of blanks, and neither do their
images.
-/

namespace FenceLint.Text

/-- The runs of letters and of their lower case lie apart from the ranges of blanks. -/
theorem lowerRuns_apart : ∀ r ∈ lowerRuns, ∀ b ∈ blankRanges, 0 < b.1 ∧
    (r.last < b.1 ∨ b.2 < r.first) ∧
    ((r.last : Int) + r.shift < b.1 ∨ (b.2 : Int) < r.first + r.shift) := by
  decide +kernel

/-- A character is blank if one of the ranges holds it. -/
theorem isBlank_eq_false_iff {c : Char} :
    isBlank c = false ↔ ∀ b ∈ blankRanges, ¬ (b.1 ≤ c.toNat ∧ c.toNat ≤ b.2) := by
  simp [isBlank, inRanges]

/-- Letters beyond ASCII stay visible in lower case, and blanks stay blank. -/
theorem isBlank_mapByRuns (c : Char) : isBlank (mapByRuns lowerRuns c) = isBlank c := by
  unfold mapByRuns
  simp only
  split
  · next r hr =>
    have hmem := List.mem_of_find?_eq_some hr
    have hrun := List.find?_some hr
    simp only [Bool.and_eq_true, decide_eq_true_eq] at hrun
    obtain ⟨⟨hfirst, hlast⟩, -⟩ := hrun
    have hletter : isBlank c = false := by
      rw [isBlank_eq_false_iff]
      intro b hb
      obtain ⟨-, hapart, -⟩ := lowerRuns_apart r hmem b hb
      omega
    rw [hletter, isBlank_eq_false_iff]
    intro b hb
    obtain ⟨hpos, -, hapart⟩ := lowerRuns_apart r hmem b hb
    -- A number that is no character stands for the null character, which is not blank either.
    have himage : (Char.ofNat ((c.toNat : Int) + r.shift).toNat).toNat =
        ((c.toNat : Int) + r.shift).toNat ∨
        (Char.ofNat ((c.toNat : Int) + r.shift).toNat).toNat = 0 := by
      by_cases hvalid : ((c.toNat : Int) + r.shift).toNat.isValidChar
      · left
        rw [Char.ofNat, dif_pos hvalid]
        rfl
      · right
        rw [Char.ofNat, dif_neg hvalid]
        rfl
    omega
  · rfl

/-- The lower case of a character is blank exactly when the character is. -/
theorem all_isBlank_lowerChar (before : List Char) (c : Char) (after : List Char) :
    (lowerChar before c after).all isBlank = isBlank c := by
  have hascii : ∀ n, n < 128 → isBlank (Char.ofNat n).toLower = isBlank (Char.ofNat n) := by
    decide +kernel
  unfold lowerChar
  split
  · next hsmall =>
    have hchar := hascii c.toNat hsmall
    rw [Char.ofNat_toNat] at hchar
    simp [hchar]
  · split
    · next hsigma =>
      obtain rfl : c = 'Σ' := by simpa using hsigma
      split
      · decide
      · decide
    · split
      · next hdotted =>
        obtain rfl : c = 'İ' := by simpa using hdotted
        decide
      · simp [isBlank_mapByRuns]

/-- A text is blank exactly when its lower case is. -/
theorem isBlankText_lower (s : String) : isBlankText (lower s) = isBlankText s := by
  have hfrom : ∀ before cs : List Char, (lowerFrom before cs).all isBlank = cs.all isBlank := by
    intro before cs
    induction cs generalizing before with
    | nil => rfl
    | cons c cs ih =>
      rw [lowerFrom, List.all_append, all_isBlank_lowerChar, ih, List.all_cons]
  rw [isBlankText, lower, String.toList_ofList, hfrom, isBlankText]

/-- The characters of ASCII are mapped one by one. -/
theorem toLower_mem_lower {s : String} {c : Char} (hc : c ∈ s.toList) (hascii : c.toNat < 128) :
    c.toLower ∈ (lower s).toList := by
  have hfrom : ∀ before cs : List Char, c ∈ cs → c.toLower ∈ lowerFrom before cs := by
    intro before cs hc
    induction cs generalizing before with
    | nil => simp at hc
    | cons d cs ih =>
      rw [lowerFrom, List.mem_append]
      rcases List.mem_cons.mp hc with rfl | hc
      · exact .inl (by simp [lowerChar, hascii])
      · exact .inr (ih _ hc)
  rw [lower, String.toList_ofList]
  exact hfrom [] _ hc

/-- A dollar sign at the start stays where it is. -/
theorem head?_lower_of_dollar {s : String} (h : s.toList.head? = some '$') :
    (lower s).toList.head? = some '$' := by
  rw [lower, String.toList_ofList]
  cases hs : s.toList with
  | nil => simp [hs] at h
  | cons c cs =>
    obtain rfl : c = '$' := by simpa [hs] using h
    rfl

end FenceLint.Text
