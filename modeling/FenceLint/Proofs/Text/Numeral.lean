import FenceLint.Text.Integer

/-!
# Decimal numerals

A whole number is written as a minus, if it is negative, and the digits of its amount
(`toList_toString_int`), so that different numbers are written differently.  The digits do not start
with a needless zero, they have the value of the amount, and there are too many of them exactly if
the number is not short (`isShort_iff`).
-/

namespace FenceLint.Text

/-- The sign that a number is written with. -/
def signText (n : Int) : List Char := if n < 0 then ['-'] else []

/-- A number is written as its sign and the digits of its amount. -/
theorem toList_toString_int (n : Int) :
    (toString n).toList = signText n ++ Nat.toDigits 10 n.natAbs := by
  rw [Int.toString_eq_repr, Int.repr_eq_if, signText]
  by_cases hn : n < 0
  · have hamount : (-n).toNat = n.natAbs := by omega
    rw [if_neg (by omega), if_pos hn, String.toList_append, Nat.toList_repr, hamount]
    rfl
  · have hamount : n.toNat = n.natAbs := by omega
    rw [if_pos (by omega), if_neg hn, Nat.toList_repr, hamount, List.nil_append]

/-- The sign and the amount make the number. -/
theorem sign_natAbs (n : Int) :
    (if (signText n == ['-']) = true then -(n.natAbs : Int) else n.natAbs) = n := by
  rw [signText]
  by_cases hn : n < 0
  · rw [if_pos hn, if_pos (beq_self_eq_true _)]
    omega
  · rw [if_neg hn, if_neg (by decide)]
    omega

/-- The digits of a number are decimal digits. -/
theorem isDigit_of_mem_toDigits {n : Nat} {c : Char} (hc : c ∈ Nat.toDigits 10 n) :
    c.isDigit = true :=
  Nat.isDigit_of_mem_toDigits (by decide) (by decide) hc

/-- A written number is made of digits and a minus. -/
theorem of_mem_toString {n : Int} {c : Char} (hc : c ∈ (toString n).toList) :
    c = '-' ∨ c.isDigit = true := by
  rw [toList_toString_int, List.mem_append, signText] at hc
  rcases hc with hc | hc
  · split at hc
    · exact .inl (List.mem_singleton.mp hc)
    · simp at hc
  · exact .inr (isDigit_of_mem_toDigits hc)

/-- A written number is on its own among words: it holds no spaces. -/
theorem space_not_mem_toString (n : Int) : ' ' ∉ (toString n).toList := by
  intro h
  rcases of_mem_toString h with h | h
  · exact absurd h (by decide)
  · exact absurd h (by decide)

/-- The digits have the value of the number. -/
theorem digitsValue_toDigits (n : Nat) : digitsValue (Nat.toDigits 10 n) = n :=
  Nat.ofDigitChars_ten_toDigits

/-- Negative numbers are written with a minus, and no others are. -/
theorem minus_mem_toString_iff (n : Int) : '-' ∈ (toString n).toList ↔ n < 0 := by
  have hdigits : '-' ∉ Nat.toDigits 10 n.natAbs :=
    fun h => absurd (isDigit_of_mem_toDigits h) (by decide)
  rw [toList_toString_int, List.mem_append, or_iff_left hdigits, signText]
  by_cases hn : n < 0
  · simp [hn]
  · simp [hn]

/-- Different numbers are written differently. -/
theorem eq_of_toString_eq {m n : Int} (h : (toString m).toList = (toString n).toList) : m = n := by
  have hsign : m < 0 ↔ n < 0 := by
    rw [← minus_mem_toString_iff, h, minus_mem_toString_iff]
  have htext : signText m = signText n := by simp only [signText, hsign]
  rw [toList_toString_int, toList_toString_int, htext] at h
  have hamount := congrArg digitsValue (List.append_cancel_left h)
  rw [digitsValue_toDigits, digitsValue_toDigits] at hamount
  omega

/-- The digits of a number start with a zero only if it is zero. -/
theorem head?_toDigits_ne_zero {n : Nat} (hn : n ≠ 0) :
    (Nat.toDigits 10 n).head? ≠ some '0' := by
  induction n using Nat.strongRecOn with
  | ind n ih =>
    by_cases hlt : n < 10
    · rw [Nat.toDigits_of_lt_base hlt]
      have hdigits : ∀ k, k < 10 → k ≠ 0 → [k.digitChar].head? ≠ some '0' := by decide
      exact hdigits n hlt hn
    · -- The first digit of a longer number is that of its tenth part.
      have htenth := ih (n / 10) (by omega) (by omega)
      rw [Nat.toDigits_of_base_le (by decide) (by omega), List.head?_append]
      cases hhead : (Nat.toDigits 10 (n / 10)).head? with
      | none => exact absurd (List.head?_eq_none_iff.mp hhead) Nat.toDigits_ne_nil
      | some c =>
        rw [hhead] at htenth
        exact htenth

/-- Short numbers are those that do not have too many digits. -/
theorem isShort_iff (n : Int) :
    isShort n = true ↔ (Nat.toDigits 10 n.natAbs).length ≤ maxDigits := by
  have hbound : leastLong = 10 ^ maxDigits := by
    -- The exponent is made abstract, so that nothing tries to compute the power.
    unfold leastLong
    generalize maxDigits = digits
    rfl
  rw [isShort, decide_eq_true_eq, hbound, Nat.length_toDigits_le_iff (by decide) (by decide)]

/-- Numbers are all short, or one of them is not. -/
theorem false_of_short_of_long {ns : List Int} (hshort : ∀ n ∈ ns, isShort n = true)
    (hlong : ∃ n ∈ ns, isShort n = false) : False := by
  obtain ⟨n, hn, hlong⟩ := hlong
  rw [hshort n hn] at hlong
  exact Bool.noConfusion hlong

theorem isShort_leastLong : isShort leastLong = false := by
  rw [isShort, Int.natAbs_natCast]
  exact decide_eq_false (Nat.lt_irrefl _)

end FenceLint.Text
