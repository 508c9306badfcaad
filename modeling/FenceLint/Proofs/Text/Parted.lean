import Mathlib.Data.List.Basic

/-!
# Texts that part

Two texts part if they are the same up to a place where both go on, and differently.  Then nothing
that is written after them makes them the same again.
-/

namespace FenceLint.Text

/-- Two texts are the same up to a place where they go on with characters that are related. -/
def PartedBy (r : Char → Char → Prop) (as bs : List Char) : Prop :=
  ∃ same a b as' bs', r a b ∧ as = same ++ a :: as' ∧ bs = same ++ b :: bs'

/-- Two texts are the same up to a place where they go on differently. -/
abbrev Parted (as bs : List Char) : Prop := PartedBy (· ≠ ·) as bs

namespace PartedBy

variable {r : Char → Char → Prop} {as bs : List Char}

theorem mono {r' : Char → Char → Prop} (h : PartedBy r as bs) (hr : ∀ a b, r a b → r' a b) :
    PartedBy r' as bs := by
  obtain ⟨same, a, b, as', bs', hab, rfl, rfl⟩ := h
  exact ⟨same, a, b, as', bs', hr a b hab, rfl, rfl⟩

theorem append (h : PartedBy r as bs) (cs ds : List Char) : PartedBy r (as ++ cs) (bs ++ ds) := by
  obtain ⟨same, a, b, as', bs', hab, rfl, rfl⟩ := h
  exact ⟨same, a, b, as' ++ cs, bs' ++ ds, hab, by simp, by simp⟩

theorem append_left (h : PartedBy r as bs) (cs : List Char) :
    PartedBy r (cs ++ as) (cs ++ bs) := by
  obtain ⟨same, a, b, as', bs', hab, rfl, rfl⟩ := h
  exact ⟨cs ++ same, a, b, as', bs', hab, by simp, by simp⟩

/-- A text that parts from a second one parts from a third one that the second parts from, unless
the characters after what is the same are related in both ways. -/
theorem trans {r' : Char → Char → Prop} {cs : List Char} (h : PartedBy r as bs)
    (h' : PartedBy r' bs cs) (hr : ∀ a b, r a b → a ≠ b) (hr' : ∀ b c, r' b c → b ≠ c)
    (hnot : ∀ a b c, r a b → ¬ r' b c) : PartedBy (· ≠ ·) as cs := by
  obtain ⟨same, a, b, as', bs', hab, rfl, rfl⟩ := h
  obtain ⟨same', b', c, bs'', cs', hbc, heq, rfl⟩ := h'
  rcases List.append_eq_append_iff.mp heq with ⟨mid, rfl, hmid⟩ | ⟨mid, rfl, hmid⟩
  · cases mid with
    | nil =>
      obtain ⟨rfl, -⟩ := List.cons.inj hmid
      exact absurd hbc (hnot a b c hab)
    | cons d mid =>
      obtain ⟨rfl, -⟩ := List.cons.inj hmid
      exact ⟨same, a, b, as', mid ++ c :: cs', hr a b hab, rfl, by simp⟩
  · cases mid with
    | nil =>
      obtain ⟨rfl, -⟩ := List.cons.inj hmid
      exact absurd hbc (hnot a b' c hab)
    | cons d mid =>
      obtain ⟨rfl, -⟩ := List.cons.inj hmid
      exact ⟨same', b', c, mid ++ a :: as', cs', hr' b' c hbc, by simp, rfl⟩

/-- Texts made of parts are parted by the first part that is not the same. -/
theorem flatMap {α : Type} {l : List α} {f g : α → List Char} {p : α → Prop}
    (hsame : ∀ a ∈ l, p a → f a = g a) (hparted : ∀ a ∈ l, ¬ p a → PartedBy r (f a) (g a))
    (hnot : ¬ ∀ a ∈ l, p a) : PartedBy r (l.flatMap f) (l.flatMap g) := by
  induction l with
  | nil => simp at hnot
  | cons a l ih =>
    rw [List.forall_mem_cons] at hsame hparted
    by_cases ha : p a
    · rw [List.flatMap_cons, List.flatMap_cons, hsame.1 ha]
      exact (ih hsame.2 hparted.2 fun hl => hnot (List.forall_mem_cons.mpr ⟨ha, hl⟩)).append_left _
    · exact (hparted.1 ha).append _ _

end PartedBy

theorem Parted.ne {as bs : List Char} (h : Parted as bs) : as ≠ bs := by
  obtain ⟨same, a, b, as', bs', hab, rfl, rfl⟩ := h
  intro heq
  exact hab (List.cons.inj (List.append_cancel_left heq)).1

end FenceLint.Text
