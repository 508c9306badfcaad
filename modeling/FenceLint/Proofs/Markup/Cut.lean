import Mathlib.Data.List.Induction
import Mathlib.Data.List.TakeWhile
import FenceLint.Markup.Tag

/-!
# Tags in a text

A text is cut at its tags: something without tags, then a tag after a number of backslashes, then
the rest (`cut`).  Whatever reads a text tag by tag follows these cuts, so that what it does can be
shown by induction on them.
-/

namespace FenceLint.Markup

/-- A number of backslashes. -/
def slashes (k : Nat) : List Char := List.replicate k '\\'

@[simp] theorem slashes_zero : slashes 0 = [] := rfl

theorem slashes_succ (k : Nat) : slashes (k + 1) = '\\' :: slashes k := rfl

theorem slashes_add (j k : Nat) : slashes (j + k) = slashes j ++ slashes k :=
  List.replicate_append_replicate.symm

theorem eq_of_mem_slashes {k : Nat} {c : Char} (h : c ∈ slashes k) : c = '\\' :=
  List.eq_of_mem_replicate h

/-- What follows the longest beginning with a property. -/
theorem drop_length_takeWhile (p : Char → Bool) (cs : List Char) :
    cs.drop (cs.takeWhile p).length = cs.dropWhile p := by
  have h : (cs.takeWhile p ++ cs.dropWhile p).drop (cs.takeWhile p).length = cs.dropWhile p :=
    List.drop_left
  rwa [List.takeWhile_append_dropWhile] at h

/-! ## Tags -/

/-- The text can stand inside a tag. -/
def IsTagBody : List Char → Prop
  | [] => False
  | c :: inside => startsTag c = true ∧ ∀ d ∈ inside, d ≠ ']' ∧ d ≠ '['

instance : DecidablePred IsTagBody
  | [] => inferInstanceAs (Decidable False)
  | _ :: inside =>
    have := List.decidableBAll (fun d => d ≠ ']' ∧ d ≠ '[') inside
    inferInstanceAs (Decidable (_ ∧ _))

/-- No bracket stands inside a tag. -/
theorem IsTagBody.ne_bracket {body : List Char} (h : IsTagBody body) :
    ∀ d ∈ body, d ≠ ']' ∧ d ≠ '[' := by
  cases body with
  | nil => simp
  | cons c inside =>
    intro d hd
    rcases List.mem_cons.mp hd with rfl | hd
    · refine ⟨?_, ?_⟩
      · rintro rfl
        exact absurd h.1 (by decide)
      · rintro rfl
        exact absurd h.1 (by decide)
    · exact h.2 d hd

/-- The inside of a tag reaches to the closing bracket. -/
theorem tagBody?_eq_some_iff {cs body : List Char} :
    tagBody? cs = some body ↔ IsTagBody body ∧ ∃ rest, cs = body ++ ']' :: rest := by
  cases cs with
  | nil =>
    constructor
    · simp [tagBody?]
    · rintro ⟨-, rest, h⟩
      simp at h
  | cons c cs =>
    have hcut := List.takeWhile_append_dropWhile (p := fun d => d != ']' && d != '[') (l := cs)
    have hinside : ∀ d ∈ cs.takeWhile (fun d => d != ']' && d != '['), d ≠ ']' ∧ d ≠ '[' := by
      intro d hd
      simpa using List.mem_takeWhile_imp hd
    rw [tagBody?]
    simp only [drop_length_takeWhile]
    constructor
    · intro h
      split at h
      · next rest hrest =>
        split at h
        · next hstarts =>
          obtain rfl := Option.some.inj h
          refine ⟨⟨hstarts, hinside⟩, rest, ?_⟩
          rw [List.cons_append, ← hrest, hcut]
        · simp at h
      · simp at h
    · rintro ⟨hbody, rest, heq⟩
      cases body with
      | nil => exact hbody.elim
      | cons d inside =>
        rw [List.cons_append, List.cons.injEq] at heq
        obtain ⟨rfl, rfl⟩ := heq
        have hall : ∀ d ∈ inside, (d != ']' && d != '[') = true := by simpa using hbody.2
        rw [List.dropWhile_append_of_pos hall, List.takeWhile_append_of_pos hall]
        simp [hbody.1]

/-- There is no tag in the text. -/
def Tagless (cs : List Char) : Prop :=
  ∀ before body after, IsTagBody body → cs ≠ before ++ '[' :: (body ++ ']' :: after)

/-- Ends of a text without tags have no tags. -/
theorem Tagless.of_append {before cs : List Char} (h : Tagless (before ++ cs)) : Tagless cs := by
  rintro before' body after hbody rfl
  exact h (before ++ before') body after hbody (by simp)

/-- Beginnings of a text without tags have no tags. -/
theorem Tagless.of_append_left {cs after : List Char} (h : Tagless (cs ++ after)) : Tagless cs := by
  rintro before body after' hbody rfl
  exact h before body (after' ++ after) hbody (by simp)

/-- There is a tag in front of a text without tags only at its start. -/
theorem tagless_cons_iff {c : Char} {cs : List Char} :
    Tagless (c :: cs) ↔ Tagless cs ∧ (c = '[' → tagBody? cs = none) := by
  constructor
  · intro h
    have hcs : Tagless cs := Tagless.of_append (show Tagless ([c] ++ cs) from h)
    refine ⟨hcs, ?_⟩
    rintro rfl
    rw [Option.eq_none_iff_forall_ne_some]
    intro body hsome
    obtain ⟨hbody, rest, rfl⟩ := tagBody?_eq_some_iff.mp hsome
    exact h [] body rest hbody rfl
  · rintro ⟨hcs, hc⟩ before body after hbody heq
    cases before with
    | nil =>
      obtain ⟨rfl, rfl⟩ := List.cons.inj heq
      have hnone := hc rfl
      rw [tagBody?_eq_some_iff.mpr ⟨hbody, after, rfl⟩] at hnone
      simp at hnone
    | cons d before => exact hcs before body after hbody (List.cons.inj heq).2

/-- Text without an opening bracket does not matter in front of a text. -/
theorem tagless_append_iff {before cs : List Char} (h : '[' ∉ before) :
    Tagless (before ++ cs) ↔ Tagless cs := by
  induction before with
  | nil => rfl
  | cons c before ih =>
    rw [List.mem_cons, not_or] at h
    rw [List.cons_append, tagless_cons_iff, ih h.2]
    exact and_iff_left fun hc => absurd hc.symm h.1

theorem tagless_of_not_mem {cs : List Char} (h : '[' ∉ cs) : Tagless cs := by
  rintro before body after - rfl
  exact h (by simp)

/-- What comes after a text without tags closes none of its brackets if it starts with an opening
bracket or holds no closing one. -/
def Apart (after : List Char) : Prop := after.head? = some '[' ∨ ']' ∉ after

/-- The inside of a tag does not reach into what stands apart. -/
theorem tagBody?_append {cs after : List Char} (hafter : Apart after) (h : tagBody? cs = none) :
    tagBody? (cs ++ after) = none := by
  rw [Option.eq_none_iff_forall_ne_some]
  intro body hsome
  obtain ⟨hbody, rest, heq⟩ := tagBody?_eq_some_iff.mp hsome
  -- The closing bracket stands in the text, or in what comes after.
  have hnone : ∀ rest, cs ≠ body ++ ']' :: rest := by
    rintro rest rfl
    rw [tagBody?_eq_some_iff.mpr ⟨hbody, rest, rfl⟩] at h
    simp at h
  rcases List.append_eq_append_iff.mp heq with ⟨mid, hmid, hrest⟩ | ⟨mid, hmid, hrest⟩
  · rcases hafter with hhead | hmem
    · cases mid with
      | nil =>
        rw [hrest] at hhead
        simp at hhead
      | cons c mid =>
        rw [hrest, List.cons_append, List.head?_cons, Option.some.injEq] at hhead
        exact (hbody.ne_bracket c (by simp [hmid])).2 hhead
    · exact hmem (by simp [hrest])
  · cases mid with
    | nil =>
      rw [List.nil_append] at hrest
      subst hrest
      rcases hafter with hhead | hmem
      · simp at hhead
      · exact hmem (by simp)
    | cons c mid =>
      rw [List.cons_append, List.cons.injEq] at hrest
      obtain ⟨rfl, -⟩ := hrest
      exact hnone mid hmid

/-- What stands apart brings no tag into a text. -/
theorem Tagless.append {cs after : List Char} (h : Tagless cs) (hafter : Apart after)
    (htagless : Tagless after) : Tagless (cs ++ after) := by
  induction cs with
  | nil => exact htagless
  | cons c cs ih =>
    rw [tagless_cons_iff] at h
    rw [List.cons_append, tagless_cons_iff]
    exact ⟨ih h.1, fun hc => tagBody?_append hafter (h.2 hc)⟩

theorem Tagless.append_slashes {cs : List Char} (h : Tagless cs) (k : Nat) :
    Tagless (cs ++ slashes k) := by
  refine h.append (.inr ?_) (tagless_of_not_mem ?_)
  · exact fun hmem => absurd (eq_of_mem_slashes hmem) (by decide)
  · exact fun hmem => absurd (eq_of_mem_slashes hmem) (by decide)

/-! ## Cuts -/

/-- A text cut at its tags. -/
inductive Cut : List Char → Prop where
  /-- Text without a tag. -/
  | text {cs : List Char} (hcs : Tagless cs) : Cut cs
  /-- Text without a tag, then a tag after `k` backslashes, then the rest. -/
  | tag {cs : List Char} (k : Nat) {body rest : List Char} (hcs : Tagless cs)
      (hlast : cs.getLast? ≠ some '\\') (hbody : IsTagBody body) (hrest : Cut rest) :
      Cut (cs ++ (slashes k ++ '[' :: (body ++ ']' :: rest)))

/-- A text has no tag, or it has a first one. -/
theorem tagless_or_first_tag (cs : List Char) :
    Tagless cs ∨ ∃ before body after, Tagless before ∧ IsTagBody body ∧
      cs = before ++ '[' :: (body ++ ']' :: after) := by
  induction cs with
  | nil => exact .inl (tagless_of_not_mem (by simp))
  | cons c cs ih =>
    by_cases htag : c = '[' ∧ (tagBody? cs).isSome
    · obtain ⟨rfl, hsome⟩ := htag
      obtain ⟨body, hbody⟩ := Option.isSome_iff_exists.mp hsome
      obtain ⟨hinside, after, rfl⟩ := tagBody?_eq_some_iff.mp hbody
      exact .inr ⟨[], body, after, tagless_of_not_mem (by simp), hinside, rfl⟩
    · have hc : c = '[' → tagBody? cs = none := fun hc => by simpa [hc] using htag
      rcases ih with hcs | ⟨before, body, after, hbefore, hbody, rfl⟩
      · exact .inl (tagless_cons_iff.mpr ⟨hcs, hc⟩)
      · refine .inr ⟨c :: before, body, after, tagless_cons_iff.mpr ⟨hbefore, ?_⟩, hbody, rfl⟩
        intro hopen
        rw [Option.eq_none_iff_forall_ne_some]
        intro inside hinside
        obtain ⟨hin, after', rfl⟩ := tagBody?_eq_some_iff.mp hinside
        have hnone := hc hopen
        rw [tagBody?_eq_some_iff.mpr ⟨hin, _, by rw [List.append_assoc]; rfl⟩] at hnone
        simp at hnone

/-- A text ends in a number of backslashes. -/
theorem exists_slashes (cs : List Char) :
    ∃ stem k, cs = stem ++ slashes k ∧ stem.getLast? ≠ some '\\' := by
  induction cs using List.reverseRecOn with
  | nil => exact ⟨[], 0, rfl, by simp⟩
  | append_singleton cs c ih =>
    by_cases hc : c = '\\'
    · obtain ⟨stem, k, rfl, hlast⟩ := ih
      exact ⟨stem, k + 1, by rw [slashes_add, hc, List.append_assoc]; rfl, hlast⟩
    · exact ⟨cs ++ [c], 0, by simp, by simpa using hc⟩

/-- Every text is cut at its tags. -/
theorem cut (cs : List Char) : Cut cs := by
  induction hn : cs.length using Nat.strongRecOn generalizing cs with
  | ind n ih =>
    rcases tagless_or_first_tag cs with hcs | ⟨before, body, after, hbefore, hbody, rfl⟩
    · exact .text hcs
    · obtain ⟨stem, k, rfl, hlast⟩ := exists_slashes before
      rw [List.append_assoc]
      refine .tag k hbefore.of_append_left hlast hbody (ih after.length ?_ after rfl)
      simp only [← hn, List.length_append, List.length_cons]
      omega

end FenceLint.Markup
