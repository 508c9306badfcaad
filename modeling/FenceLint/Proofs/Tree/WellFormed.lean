import FenceLint.Tree.Basic

/-!
# Trees of files

What the entries of a tree have in common when they are those of a file system: every place is
listed once, names go down, and whatever lies above an entry is a directory.  So nothing lies below
a place where there is no directory (`Tree.WellFormed.not_below`).
-/

namespace FenceLint

/-- The entries of the tree are those of a file system. -/
structure Tree.WellFormed (t : Tree) : Prop where
  /-- No place is listed twice. -/
  distinct : (t.entries.map (·.parts)).Nodup
  /-- No name goes up. -/
  descends : ∀ e ∈ t.entries, ".." ∉ e.parts
  /-- The places above an entry are directories. -/
  above : ∀ e ∈ t.entries, ∀ n < e.parts.length, t.at? (e.parts.take n) = some .directory

/-- An entry lies below directories only. -/
theorem Tree.WellFormed.not_below {t : Tree} (ht : t.WellFormed) {e : Entry} (he : e ∈ t.entries)
    {place : List String} (hplace : t.at? place ≠ some .directory) (hne : e.parts ≠ place) :
    ¬ place <+: e.parts := by
  intro hbelow
  have hlt : place.length < e.parts.length := by
    refine Nat.lt_of_le_of_ne hbelow.length_le ?_
    intro hlength
    exact hne (hbelow.eq_of_length hlength).symm
  have habove := ht.above e he place.length hlt
  rw [← List.prefix_iff_eq_take.mp hbelow] at habove
  exact hplace habove

end FenceLint
