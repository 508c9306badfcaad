import FenceLint.Failure
import FenceLint.Proofs.Tree.WellFormed
import Mathlib.Data.List.Nodup

/-!
# What a path leads to

A path that goes down leads to what stands at its names (`Tree.at?_of_lookup`).  The other way
round, every entry of a well-formed tree is what its own path leads to, as long as the path is one
that the system can follow (`Tree.WellFormed.lookup_of_mem`).
-/

namespace FenceLint

namespace Tree

/-- The system can follow the path: it has no null character, and neither one of its names nor the
whole path is too long. -/
structure CanFollow (t : Tree) (p : Path) : Prop where
  /-- There is no null character in the path. -/
  noNull : p.hasNull = false
  /-- The path is not too long. -/
  short : (t.pathText p).utf8ByteSize ≤ maxPath
  /-- No name on the way is too long. -/
  shortNames : ∀ name ∈ p.parts, isLongName name = false

instance (t : Tree) (p : Path) : Decidable (t.CanFollow p) :=
  decidable_of_iff (p.hasNull = false ∧ (t.pathText p).utf8ByteSize ≤ maxPath ∧
      ∀ name ∈ p.parts, isLongName name = false)
    ⟨fun h => ⟨h.1, h.2.1, h.2.2⟩, fun h => ⟨h.noNull, h.short, h.shortNames⟩⟩

variable {t : Tree} {p : Path}

/-- Names that go down lead to what stands there. -/
theorem at?_of_follow {names here : List String} {node : Node} (hdown : ".." ∉ names)
    (h : t.follow (some here) names = .ok node) : t.at? (here ++ names) = some node := by
  induction names generalizing here with
  | nil =>
    rw [follow] at h
    rw [List.append_nil]
    cases hhere : t.at? here with
    | none => simp [hhere] at h
    | some n =>
      rw [hhere] at h
      rw [Except.ok.inj h]
  | cons name names ih =>
    rw [List.mem_cons, not_or] at hdown
    have hup : ¬ (name == "..") = true := by simpa using Ne.symm hdown.1
    rw [follow] at h
    cases hhere : t.at? here with
    | none => simp [hhere] at h
    | some n =>
      cases n with
      | file bytes => simp [hhere] at h
      | directory =>
        simp only [hhere, if_neg hup] at h
        split at h
        · simp at h
        · simpa using ih hdown.2 h

/-- A file at the end of a path that goes down stands at its names. -/
theorem at?_of_lookup {bytes : List UInt8} (hdown : ".." ∉ p.parts)
    (h : t.lookup p = .ok (.file bytes)) : t.at? p.parts = some (.file bytes) := by
  -- Above the top there are directories only.
  have habove : t.follow none p.parts ≠ .ok (.file bytes) := by
    generalize p.parts = names at hdown
    cases names with
    | nil => simp [follow]
    | cons name names =>
      have hup : name ≠ ".." := fun heq => hdown (heq ▸ List.mem_cons_self)
      simp [follow, hup]
  unfold lookup at h
  split at h
  · simp at h
  · split at h
    · simp at h
    · split at h
      · exact at?_of_follow hdown h
      · exact at?_of_follow hdown h
      · exact absurd h habove
      · exact absurd h habove

/-- What is read at the end of a path that goes down is a file that stands at its names. -/
theorem exists_file_of_readText {text : String} (hdown : ".." ∉ p.parts)
    (h : t.readText p = .ok text) : ∃ bytes, t.at? p.parts = some (.file bytes) := by
  unfold readText at h
  cases hlookup : t.lookup p with
  | error fault => simp [hlookup] at h
  | ok node =>
    cases node with
    | directory => simp [hlookup] at h
    | file bytes => exact ⟨bytes, at?_of_lookup hdown hlookup⟩

/-- Names that are not too long are not what keeps a path from being followed. -/
theorem follow_ne_tooLong {names : List String} (h : ∀ name ∈ names, isLongName name = false)
    (here : Option (List String)) : t.follow here names ≠ .error .tooLong := by
  induction names generalizing here with
  | nil =>
    cases here with
    | none => simp [follow]
    | some here =>
      rw [follow]
      split
      · simp
      · simp
  | cons name names ih =>
    have hname := h name List.mem_cons_self
    have hrest := fun here => ih (fun n hn => h n (List.mem_cons_of_mem name hn)) here
    cases here with
    | none =>
      rw [follow, hname]
      split
      · exact hrest none
      · simp
    | some here =>
      rw [follow]
      split
      · simp
      · simp
      · rw [hname]
        split
        · exact hrest _
        · exact hrest _

/-- Looking at a path that can be followed tells whether a file stands there. -/
theorem CanFollow.isFile_eq (h : t.CanFollow p) :
    t.isFile p = .ok (match t.lookup p with | .ok (.file _) => true | _ => false) := by
  have hlong : t.lookup p ≠ .error .tooLong := by
    have hpath : ¬ maxPath < (t.pathText p).utf8ByteSize := Nat.not_lt.mpr h.short
    unfold lookup
    rw [h.noNull, if_neg hpath]
    simp only [Bool.false_eq_true, if_false]
    split
    · exact follow_ne_tooLong h.shortNames _
    · exact follow_ne_tooLong h.shortNames _
    · exact follow_ne_tooLong h.shortNames _
    · exact follow_ne_tooLong h.shortNames _
  unfold isFile node?
  cases hlookup : t.lookup p with
  | ok n => cases n <;> rfl
  | error fault =>
    cases fault with
    | tooLong => exact absurd hlookup hlong
    | _ => rfl

/-! ## Entries -/

/-- What stands at the place of an entry is the entry. -/
theorem WellFormed.at?_of_mem (ht : t.WellFormed) {e : Entry} (he : e ∈ t.entries)
    (hne : e.parts ≠ []) : t.at? e.parts = some e.node := by
  have hfind : t.entries.find? (fun d => d.parts == e.parts) = some e := by
    cases hfind : t.entries.find? fun d => d.parts == e.parts with
    | none => exact absurd (beq_self_eq_true e.parts) (List.find?_eq_none.mp hfind e he)
    | some d =>
      have hsame : d.parts = e.parts := by simpa using List.find?_some hfind
      rw [List.inj_on_of_nodup_map ht.distinct (List.mem_of_find?_eq_some hfind) he hsame]
  rw [at?, if_neg (by simpa using hne), hfind]
  rfl

/-- An entry is what its path leads to. -/
theorem WellFormed.lookup_of_mem (ht : t.WellFormed) {e : Entry} (he : e ∈ t.entries)
    (hne : e.parts ≠ []) (hfollow : t.CanFollow ⟨.top, e.parts⟩) :
    t.lookup ⟨.top, e.parts⟩ = .ok e.node := by
  -- The names before the place `here` have been followed, and `names` are left.
  have hinside : ∀ names here, here ++ names = e.parts →
      t.follow (some here) names = .ok e.node := by
    intro names
    induction names with
    | nil =>
      intro here heq
      rw [List.append_nil] at heq
      rw [follow, heq, ht.at?_of_mem he hne]
    | cons name names ih =>
      intro here heq
      have hname : name ∈ e.parts := by simp [← heq]
      have hup : ¬ (name == "..") = true := by
        simpa using fun h : name = ".." => ht.descends e he (h ▸ hname)
      have hhere : t.at? here = some .directory := by
        have habove := ht.above e he here.length (by simp [← heq])
        rwa [← heq, List.take_left] at habove
      rw [follow, hhere]
      simp only [if_neg hup, hfollow.shortNames name hname, Bool.false_eq_true, if_false]
      exact ih (here ++ [name]) (by simp [heq])
  have hpath : ¬ maxPath < (t.pathText ⟨.top, e.parts⟩).utf8ByteSize := Nat.not_lt.mpr hfollow.short
  rw [lookup, hfollow.noNull, if_neg hpath]
  exact hinside e.parts [] rfl

end Tree

end FenceLint
