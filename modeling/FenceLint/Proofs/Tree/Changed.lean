import FenceLint.Failure

/-!
# Trees with one entry changed

When a file of a tree gets another content, every path that leads elsewhere still leads to what it
led to before, and is still read as the same text (`Tree.readText_set`).  A path may go up and down
on its way; where it ends is what `Path.resolve` says, unless it leaves the tree, and then the tree
does not matter.

When an entry is new, it may stand in the way of a path.  A path that only goes down and does not
come by still leads to what it led to before (`Tree.lookup_set_of_not_below`), and the other
entries stay, in their order (`Tree.filter_entries_set`).
-/

namespace FenceLint

namespace Tree

variable {t : Tree} {parts : List String}

/-- Replacing what stands at some names moves no entry. -/
theorem find?_map_replace (entries : List Entry) (parts q : List String) (node : Node) :
    (entries.map fun e => if e.parts == parts then ⟨parts, node⟩ else e).find?
        (fun e => e.parts == q) =
      (entries.find? fun e => e.parts == q).map
        fun e => if e.parts == parts then ⟨parts, node⟩ else e := by
  rw [List.find?_map]
  congr 2
  funext e
  by_cases he : e.parts = parts
  · simp [he]
  · simp [he]

/-- Setting an entry changes nothing at other places. -/
theorem at?_set_of_ne {q : List String} (h : q ≠ parts) (node : Node) :
    (t.set parts node).at? q = t.at? q := by
  unfold set
  split
  · unfold at?
    split
    · rfl
    · rw [find?_map_replace]
      cases hfind : t.entries.find? fun e => e.parts == q with
      | none => rfl
      | some e =>
        have hq : e.parts = q := by simpa using List.find?_some hfind
        have he : ¬ e.parts = parts := fun he => h (hq.symm.trans he)
        simp [he]
  · unfold at?
    split
    · rfl
    · have hlast : (parts == q) = false := by simpa using Ne.symm h
      rw [List.find?_append, List.find?_cons_of_neg (by simp [hlast]), List.find?_nil,
        Option.or_none]

/-- What was there is replaced. -/
theorem at?_set_self {old : List UInt8} (h : t.at? parts = some (.file old)) (node : Node) :
    (t.set parts node).at? parts = some node := by
  have hset : t.set parts node =
      { t with entries := t.entries.map fun e =>
          if e.parts == parts then ⟨parts, node⟩ else e } := by
    rw [set, if_pos (by simp [h])]
  unfold at? at h
  split at h
  · -- The top is no file.
    simp at h
  · next hparts =>
    obtain ⟨e, he, -⟩ := Option.map_eq_some_iff.1 h
    have hfound : e.parts = parts := by simpa using List.find?_some he
    rw [hset, at?, if_neg hparts, find?_map_replace, he]
    simp [hfound]

theorem name_set (t : Tree) (parts : List String) (node : Node) :
    (t.set parts node).name = t.name := by
  unfold set
  split
  · rfl
  · rfl

/-- Above the top no entry is looked at. -/
theorem follow_none_eq (t t' : Tree) (names : List String) :
    t.follow none names = t'.follow none names := by
  induction names with
  | nil => rfl
  | cons name names ih =>
    rw [follow, follow, ih]

/-- Names that do not end at the changed file lead where they led before.  They are followed from
the place `done`, which lists the names to it from the last one on. -/
theorem follow_set {old : List UInt8} (hfile : t.at? parts = some (.file old)) (new : List UInt8)
    (names done : List String)
    (hends : (names.foldl (fun done p => if p == ".." then done.tail else p :: done) done).reverse
      ≠ parts) :
    (t.set parts (.file new)).follow (some done.reverse) names =
      t.follow (some done.reverse) names := by
  induction names generalizing done with
  | nil =>
    have hhere : done.reverse ≠ parts := hends
    rw [follow, follow, at?_set_of_ne hhere]
  | cons name names ih =>
    by_cases hhere : done.reverse = parts
    · -- A file stands in the way, before and after.
      rw [follow, follow, hhere, hfile, at?_set_self hfile]
    · rw [follow, follow, at?_set_of_ne hhere]
      cases t.at? done.reverse with
      | none => rfl
      | some node =>
        cases node with
        | file bytes => rfl
        | directory =>
          by_cases hup : (name == "..") = true
          · rw [List.foldl_cons, if_pos hup] at hends
            simp only [if_pos hup]
            split
            · apply follow_none_eq
            · rw [List.dropLast_reverse]
              exact ih done.tail hends
          · rw [List.foldl_cons, if_neg hup] at hends
            simp only [if_neg hup]
            split
            · rfl
            · have hdown := ih (name :: done) hends
              rwa [List.reverse_cons] at hdown

/-- A path that does not lead to the changed file leads where it led before. -/
theorem lookup_set {old : List UInt8} (hfile : t.at? parts = some (.file old)) (new : List UInt8)
    {p : Path} (hp : p.resolve ≠ ⟨.top, parts⟩) :
    (t.set parts (.file new)).lookup p = t.lookup p := by
  have hinside : p.anchor = .relative ∨ p.anchor = .top →
      (t.set parts (.file new)).follow (some []) p.parts = t.follow (some []) p.parts := by
    intro hanchor
    apply follow_set hfile new p.parts []
    intro hends
    apply hp
    rw [Path.resolve, Path.resolveParts, hends]
    rcases hanchor with hanchor | hanchor
    · rw [hanchor]
      rfl
    · rw [hanchor]
      rfl
  rw [lookup, lookup, pathText, pathText, name_set]
  cases hanchor : p.anchor with
  | relative => rw [hinside (.inl hanchor)]
  | top => rw [hinside (.inr hanchor)]
  | slash => rw [follow_none_eq]
  | slashes => rw [follow_none_eq]

/-- A path that does not lead to the changed file is read as it was before. -/
theorem readText_set {old : List UInt8} (hfile : t.at? parts = some (.file old)) (new : List UInt8)
    {p : Path} (hp : p.resolve ≠ ⟨.top, parts⟩) :
    (t.set parts (.file new)).readText p = t.readText p := by
  rw [readText, readText, lookup_set hfile new hp, pathText, pathText, name_set]

/-! ## Paths that go down -/

/-- Names that go down lead to the same in trees that agree on the way there. -/
theorem follow_congr {t t' : Tree} {names here : List String} (hdown : ".." ∉ names)
    (h : ∀ q, q <+: here ++ names → t'.at? q = t.at? q) :
    t'.follow (some here) names = t.follow (some here) names := by
  have hhere : t'.at? here = t.at? here := h here (List.prefix_append here names)
  induction names generalizing here with
  | nil => rw [follow, follow, hhere]
  | cons name names ih =>
    rw [follow, follow, hhere]
    cases t.at? here with
    | none => rfl
    | some n =>
      cases n with
      | file bytes => rfl
      | directory =>
        rw [List.mem_cons, not_or] at hdown
        have hup : ¬ (name == "..") = true := by simpa using Ne.symm hdown.1
        have hrest : ∀ q, q <+: (here ++ [name]) ++ names → t'.at? q = t.at? q := by simpa using h
        simp only [if_neg hup]
        split
        · rfl
        · exact ih hdown.2 hrest (hrest _ (List.prefix_append _ names))

/-- A path that goes down leads to the same in trees that agree on the way there. -/
theorem lookup_congr {t t' : Tree} (hname : t'.name = t.name) {p : Path} (hdown : ".." ∉ p.parts)
    (h : ∀ q, q <+: p.parts → t'.at? q = t.at? q) : t'.lookup p = t.lookup p := by
  have hinside : t'.follow (some []) p.parts = t.follow (some []) p.parts := follow_congr hdown h
  rw [lookup, lookup, pathText, pathText, hname, hinside, follow_none_eq t' t]

section Down

variable {place : List String} (node : Node)

variable {p : Path} (hdown : ".." ∉ p.parts) (hp : ¬ place <+: p.parts)

include hdown hp

/-- A path that goes down and does not come by the changed place leads where it led before. -/
theorem lookup_set_of_not_below : (t.set place node).lookup p = t.lookup p := by
  refine lookup_congr (name_set t place node) hdown ?_
  intro q hq
  refine at?_set_of_ne ?_ node
  rintro rfl
  exact hp hq

theorem readText_set_of_not_below : (t.set place node).readText p = t.readText p := by
  rw [readText, readText, lookup_set_of_not_below node hdown hp, pathText, pathText, name_set]

theorem isFile_set_of_not_below : (t.set place node).isFile p = t.isFile p := by
  rw [isFile, isFile, node?, node?, lookup_set_of_not_below node hdown hp, pathText, pathText,
    name_set]

theorem isDirectory_set_of_not_below : (t.set place node).isDirectory p = t.isDirectory p := by
  rw [isDirectory, isDirectory, lookup_set_of_not_below node hdown hp]

end Down

/-- The entries at other places stay, in their order. -/
theorem filter_entries_set (t : Tree) (place : List String) (node : Node) {q : Entry → Bool}
    (hq : ∀ e, q e = true → e.parts ≠ place) :
    (t.set place node).entries.filter q = t.entries.filter q := by
  have hplace : ∀ e : Entry, e.parts = place → q e = false := by
    intro e he
    exact Bool.eq_false_iff.mpr fun hqe => hq e hqe he
  unfold set
  split
  · have hreplaced : (q ∘ fun e : Entry => if e.parts == place then ⟨place, node⟩ else e) = q := by
      funext e
      by_cases he : e.parts = place
      · simp [he, hplace]
      · simp [he]
    rw [List.filter_map, hreplaced]
    refine (List.map_congr_left ?_).trans (List.map_id _)
    intro e he
    exact if_neg (by simpa using hq e (List.mem_filter.mp he).2)
  · rw [List.filter_append, List.filter_cons_of_neg (by simp [hplace]), List.filter_nil,
      List.append_nil]

end Tree

end FenceLint
