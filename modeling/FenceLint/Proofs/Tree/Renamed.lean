import FenceLint.Proofs.Tree.Changed

/-!
# Trees with one name changed

When an entry gets another name, what lies below it moves along.  Nothing stands at the old place
afterwards (`Tree.at?_rename_self`), and a path that comes by neither the old place nor the new one
leads to what it led to before (`Tree.lookup_rename`).
-/

namespace FenceLint

/-- The names of a path after the entry `old` in the directory `above` is called `new`. -/
def Path.renameIn (above : List String) (old new : String) (parts : List String) : List String :=
  if (above ++ [old]).isPrefixOf parts then above ++ new :: parts.drop (above.length + 1) else parts

/-- The tree after the entry `old` in the directory `above` is called `new`. -/
def Tree.rename (t : Tree) (above : List String) (old new : String) : Tree :=
  { t with
    entries := t.entries.map fun e => { e with parts := Path.renameIn above old new e.parts } }

variable {above parts : List String} {old new : String}

namespace Path

/-- What lies below the entry moves along. -/
theorem renameIn_append (above : List String) (old new : String) (rest : List String) :
    renameIn above old new (above ++ old :: rest) = above ++ new :: rest := by
  have hstarts : (above ++ [old]).isPrefixOf (above ++ old :: rest) = true := by
    rw [List.isPrefixOf_iff_prefix]
    exact ⟨rest, by simp⟩
  rw [renameIn, if_pos hstarts, ← List.drop_drop, List.drop_left, List.drop_one, List.tail_cons]

/-- What does not lie below the entry stays where it is. -/
theorem renameIn_eq_self (h : ¬ above ++ [old] <+: parts) : renameIn above old new parts = parts :=
  if_neg (by rwa [List.isPrefixOf_iff_prefix])

/-- What moves has the new name on its way. -/
theorem renameIn_cases (above : List String) (old new : String) (parts : List String) :
    renameIn above old new parts = parts ∧ ¬ above ++ [old] <+: parts ∨
      ∃ rest, parts = above ++ old :: rest ∧
        renameIn above old new parts = above ++ new :: rest := by
  by_cases h : above ++ [old] <+: parts
  · obtain ⟨rest, rfl⟩ := h
    rw [List.append_assoc]
    exact .inr ⟨rest, rfl, renameIn_append above old new rest⟩
  · exact .inl ⟨renameIn_eq_self h, h⟩

theorem length_renameIn (above : List String) (old new : String) (parts : List String) :
    (renameIn above old new parts).length = parts.length := by
  rcases renameIn_cases above old new parts with ⟨h, -⟩ | ⟨rest, rfl, h⟩
  · rw [h]
  · rw [h, List.length_append, List.length_append, List.length_cons, List.length_cons]

/-- Renaming below a directory leaves the names to the directory alone. -/
theorem renameIn_append_left (before above : List String) (old new : String) (parts : List String) :
    renameIn (before ++ above) old new (before ++ parts) =
      before ++ renameIn above old new parts := by
  rcases renameIn_cases above old new parts with ⟨h, hbelow⟩ | ⟨rest, rfl, h⟩
  · rw [h]
    apply renameIn_eq_self
    rwa [List.append_assoc, List.prefix_append_right_inj]
  · rw [h, ← List.append_assoc, renameIn_append, List.append_assoc]

/-- The names to an entry start with those of a directory before it is renamed exactly if they do so
afterwards, unless the directory is renamed itself. -/
theorem prefix_renameIn_iff (before above : List String) (old new : String) (parts : List String) :
    before <+: renameIn (before ++ above) old new parts ↔ before <+: parts := by
  rcases renameIn_cases (before ++ above) old new parts with ⟨h, -⟩ | ⟨rest, rfl, h⟩
  · rw [h]
  · rw [h, List.append_assoc, List.append_assoc]
    exact ⟨fun _ => List.prefix_append _ _, fun _ => List.prefix_append _ _⟩

end Path

namespace Tree

variable {t : Tree}

theorem name_rename (t : Tree) (above : List String) (old new : String) :
    (t.rename above old new).name = t.name := rfl

/-- Nothing stands at the old place. -/
theorem at?_rename_self (h : new ≠ old) : (t.rename above old new).at? (above ++ [old]) = none := by
  rw [at?, if_neg (by simp), Option.map_eq_none_iff, List.find?_eq_none]
  intro e he
  obtain ⟨d, -, rfl⟩ := List.mem_map.mp he
  rw [beq_iff_eq]
  show ¬ Path.renameIn above old new d.parts = above ++ [old]
  rcases Path.renameIn_cases above old new d.parts with ⟨heq, hbelow⟩ | ⟨rest, -, heq⟩
  · rw [heq]
    intro hplace
    exact hbelow (hplace ▸ List.prefix_refl _)
  · rw [heq]
    intro hplace
    have hnames := List.append_cancel_left hplace
    exact h (List.cons.inj hnames).1

/-- Names that come by neither of the places lead where they led before. -/
theorem at?_rename {q : List String} (hold : ¬ above ++ [old] <+: q)
    (hnew : ¬ above ++ [new] <+: q) : (t.rename above old new).at? q = t.at? q := by
  have hsame : ∀ e : Entry, (Path.renameIn above old new e.parts == q) = (e.parts == q) := by
    intro e
    rw [Bool.eq_iff_iff, beq_iff_eq, beq_iff_eq]
    rcases Path.renameIn_cases above old new e.parts with ⟨heq, -⟩ | ⟨rest, hparts, heq⟩
    · rw [heq]
    · rw [heq, hparts]
      constructor
      · rintro rfl
        exact absurd ⟨rest, by simp⟩ hnew
      · rintro rfl
        exact absurd ⟨rest, by simp⟩ hold
  unfold at? rename
  rw [List.find?_map, Option.map_map]
  simp only [Function.comp_def, hsame]

/-- A path that goes down and comes by neither of the places leads where it led before. -/
theorem lookup_rename {p : Path} (hdown : ".." ∉ p.parts) (hold : ¬ above ++ [old] <+: p.parts)
    (hnew : ¬ above ++ [new] <+: p.parts) : (t.rename above old new).lookup p = t.lookup p := by
  refine lookup_congr (name_rename t above old new) hdown ?_
  intro q hq
  exact at?_rename (fun h => hold (h.trans hq)) (fun h => hnew (h.trans hq))

section Down

variable {p : Path} (hdown : ".." ∉ p.parts) (hold : ¬ above ++ [old] <+: p.parts)
  (hnew : ¬ above ++ [new] <+: p.parts)

include hdown hold hnew

theorem readText_rename : (t.rename above old new).readText p = t.readText p := by
  rw [readText, readText, lookup_rename hdown hold hnew, pathText, pathText, name_rename]

theorem isFile_rename : (t.rename above old new).isFile p = t.isFile p := by
  rw [isFile, isFile, node?, node?, lookup_rename hdown hold hnew, pathText, pathText, name_rename]

theorem isDirectory_rename : (t.rename above old new).isDirectory p = t.isDirectory p := by
  rw [isDirectory, isDirectory, lookup_rename hdown hold hnew]

end Down

/-- What lies below a directory is listed as before, under the new names. -/
theorem below_rename (t : Tree) (root above : List String) (old new : String) :
    (t.rename (root ++ above) old new).below root =
      (t.below root).map fun e =>
        { e with parts := Path.renameIn (root ++ above) old new e.parts } := by
  have hinside : ∀ e : Entry,
      (root.isPrefixOf (Path.renameIn (root ++ above) old new e.parts) &&
        Path.renameIn (root ++ above) old new e.parts != root) =
      (root.isPrefixOf e.parts && e.parts != root) := by
    intro e
    rw [Bool.eq_iff_iff, Bool.and_eq_true, Bool.and_eq_true, List.isPrefixOf_iff_prefix,
      List.isPrefixOf_iff_prefix, Path.prefix_renameIn_iff, bne_iff_ne, bne_iff_ne]
    refine and_congr_right fun hstarts => not_congr ?_
    obtain ⟨rest, hrest⟩ := hstarts
    rw [← hrest, Path.renameIn_append_left, List.append_right_eq_self, List.append_right_eq_self,
      ← List.length_eq_zero_iff, ← List.length_eq_zero_iff, Path.length_renameIn]
  rw [below, below, rename, List.filter_map, List.map_mergeSort]
  · congr 2
    apply List.filter_congr
    intro e _
    exact hinside e
  · intro a _ b _
    simp only [Path.length_renameIn]

end Tree

end FenceLint
