/-!
# Blank characters

The characters that count as blank when a text is trimmed: the white space of the Unicode character
database together with the four information separators.  `trim` removes them at both ends, and
`trimWhere` any other class of characters.
-/

namespace FenceLint.Text

/-- The code point lies in one of some closed ranges. -/
def inRanges (ranges : List (Nat × Nat)) (n : Nat) : Bool :=
  ranges.any fun r => r.1 ≤ n && n ≤ r.2

/-- The blank characters, as closed ranges of code points in increasing order. -/
def blankRanges : List (Nat × Nat) :=
  [(0x09, 0x0d), (0x1c, 0x20), (0x85, 0x85), (0xa0, 0xa0), (0x1680, 0x1680), (0x2000, 0x200a),
   (0x2028, 0x2029), (0x202f, 0x202f), (0x205f, 0x205f), (0x3000, 0x3000)]

/-- Whether `c` is removed by trimming. -/
def isBlank (c : Char) : Bool := inRanges blankRanges c.toNat

/-- White space of the Unicode character database, which has no information separators. -/
def isWhiteSpace (c : Char) : Bool := isBlank c && !(0x1c ≤ c.toNat && c.toNat ≤ 0x1f)

/-- The text `s` without the characters of a class at both ends. -/
def trimWhere (p : Char → Bool) (s : List Char) : List Char :=
  ((s.dropWhile p).reverse.dropWhile p).reverse

/-- The text `s` without its leading blanks. -/
def trimStart (s : List Char) : List Char := s.dropWhile isBlank

/-- The text `s` without its trailing blanks. -/
def trimEnd (s : List Char) : List Char := (s.reverse.dropWhile isBlank).reverse

/-- The text `s` without the blanks at both ends. -/
def trim (s : List Char) : List Char := trimEnd (trimStart s)

/-- The string `s` without the blanks at both ends. -/
def strip (s : String) : String := String.ofList (trim s.toList)

/-- A text of blanks only; nothing is left of it by `strip`. -/
def isBlankText (s : String) : Bool := s.toList.all isBlank

/-- A text is blank exactly when trimming leaves nothing at its start. -/
theorem trimStart_eq_nil_iff (s : List Char) : trimStart s = [] ↔ s.all isBlank = true := by
  induction s with
  | nil => simp [trimStart]
  | cons c r ih =>
    simp only [trimStart] at ih ⊢
    by_cases h : isBlank c = true <;> simp_all

/-- A text is blank exactly when stripping leaves nothing of it. -/
theorem isBlankText_iff (s : String) : isBlankText s = true ↔ strip s = "" := by
  have hrev : ∀ l : List Char, trimEnd l = [] ↔ l.all isBlank = true := by
    intro l
    rw [trimEnd, List.reverse_eq_nil_iff, ← List.all_reverse, ← trimStart_eq_nil_iff]
    rfl
  rw [strip, trim, String.ofList_eq_empty_iff, hrev, isBlankText]
  constructor
  · intro h
    rw [(trimStart_eq_nil_iff s.toList).2 h]
    rfl
  · intro h
    -- What is skipped at the start is blank, and so is the rest.
    rw [← List.takeWhile_append_dropWhile (p := isBlank) (l := s.toList), List.all_append,
      List.all_takeWhile, Bool.true_and]
    exact h

end FenceLint.Text
