import FenceLint.Finding
import Mathlib.Data.List.DropRight

/-!
# The detail of a finding

A scanner puts brackets around what it has to say, and a finding should not show them.  They are
taken away by a look at the two ends of the text.  If the brackets in the text are balanced, the
detail is as wanted unless the text is torn: there are brackets at both ends, and the first of them
is closed before the end (`Finding.detailOf_of_balanced`).  Then the brackets of the detail are no
longer balanced.  Two pairs side by side are enough (`Finding.two_pairs_torn`).
-/

namespace FenceLint.Finding

/-! ## Balanced brackets -/

/-- Every opening bracket of the text has a closing one, and every closing one an opening one. -/
inductive Balanced : List Char → Prop where
  /-- There is nothing to balance. -/
  | nil : Balanced []
  /-- A character that is no bracket. -/
  | char {c : Char} {cs : List Char} (hopen : c ≠ '[') (hclose : c ≠ ']') (hcs : Balanced cs) :
      Balanced (c :: cs)
  /-- A pair of brackets with what stands between them. -/
  | pair {inner rest : List Char} (hinner : Balanced inner) (hrest : Balanced rest) :
      Balanced ('[' :: inner ++ ']' :: rest)

/-- A text closes `depth` brackets that were opened before it, and its own. -/
def closesAll : Nat → List Char → Bool
  | depth, [] => depth == 0
  | depth, c :: cs =>
    if c = '[' then closesAll (depth + 1) cs
    else if c = ']' then depth != 0 && closesAll (depth - 1) cs
    else closesAll depth cs

/-- A balanced text does not matter for the brackets around it. -/
theorem Balanced.closesAll_append {cs : List Char} (h : Balanced cs) (depth : Nat)
    (rest : List Char) : closesAll depth (cs ++ rest) = closesAll depth rest := by
  induction h generalizing depth rest with
  | nil => rfl
  | char hopen hclose _ ih => rw [List.cons_append, closesAll, if_neg hopen, if_neg hclose, ih]
  | pair _ _ ihinner ihrest =>
    rw [List.append_assoc, List.cons_append, closesAll, if_pos rfl, ihinner, List.cons_append,
      closesAll, if_neg (by decide), if_pos rfl, Nat.add_sub_cancel, ihrest]
    rfl

/-- What closes its own brackets only is balanced; what closes one more is cut by the bracket that
does so. -/
theorem balanced_of_closesAll (n : Nat) (cs : List Char) (hlength : cs.length = n) :
    (closesAll 0 cs = true → Balanced cs) ∧
      ∀ depth, closesAll (depth + 1) cs = true →
        ∃ inner rest, Balanced inner ∧ closesAll depth rest = true ∧ cs = inner ++ ']' :: rest := by
  induction n using Nat.strongRecOn generalizing cs with
  | ind n ih =>
    subst hlength
    cases cs with
    | nil => exact ⟨fun _ => .nil, fun depth h => by simp [closesAll] at h⟩
    | cons c cs =>
      have hshorter : cs.length < (c :: cs).length := Nat.lt_succ_self _
      -- A bracket that is opened here is closed later on, and then the rest is shorter still.
      have hpair : c = '[' → ∀ depth, closesAll (depth + 1) cs = true → ∃ inner rest,
          Balanced inner ∧ closesAll depth rest = true ∧ rest.length < (c :: cs).length ∧
            c :: cs = '[' :: inner ++ ']' :: rest := by
        rintro rfl depth h
        obtain ⟨inner, rest, hinner, hrest, rfl⟩ := (ih _ hshorter cs rfl).2 depth h
        refine ⟨inner, rest, hinner, hrest, ?_, rfl⟩
        simp only [List.length_cons, List.length_append]
        omega
      constructor
      · intro h
        rw [closesAll] at h
        split at h
        · next hopen =>
          obtain ⟨inner, rest, hinner, hrest, hlt, heq⟩ := hpair hopen 0 h
          rw [heq]
          exact hinner.pair ((ih _ hlt rest rfl).1 hrest)
        · next hopen =>
          split at h
          · simp at h
          · next hclose => exact .char hopen hclose ((ih _ hshorter cs rfl).1 h)
      · intro depth h
        rw [closesAll] at h
        split at h
        · next hopen =>
          obtain ⟨inner, rest, hinner, hrest, hlt, heq⟩ := hpair hopen (depth + 1) h
          obtain ⟨inner', rest', hinner', hrest', rfl⟩ := (ih _ hlt rest rfl).2 depth hrest
          exact ⟨_, rest', hinner.pair hinner', hrest', by simp [heq]⟩
        · next hopen =>
          split at h
          · next hclose =>
            refine ⟨[], cs, .nil, ?_, by rw [hclose]; rfl⟩
            simpa using h
          · next hclose =>
            obtain ⟨inner, rest, hinner, hrest, rfl⟩ := (ih _ hshorter cs rfl).2 depth h
            exact ⟨c :: inner, rest, hinner.char hopen hclose, hrest, rfl⟩

/-- A text is balanced exactly when it closes its own brackets and no others. -/
theorem balanced_iff_closesAll {cs : List Char} : Balanced cs ↔ closesAll 0 cs = true := by
  refine ⟨fun h => ?_, (balanced_of_closesAll _ cs rfl).1⟩
  have hclosed := h.closesAll_append 0 []
  rwa [List.append_nil] at hclosed

instance (cs : List Char) : Decidable (Balanced cs) :=
  decidable_of_iff _ balanced_iff_closesAll.symm

/-- A text with a closing bracket that nothing opens is not balanced. -/
theorem Balanced.not_append_close {inner : List Char} (h : Balanced inner) (rest : List Char) :
    ¬ Balanced (inner ++ ']' :: rest) := by
  rw [balanced_iff_closesAll, h.closesAll_append, closesAll]
  simp

/-- Nothing is left open when a balanced text comes last. -/
theorem Balanced.closesAll_append_left {cs : List Char} (h : Balanced cs) (depth : Nat)
    (before : List Char) : closesAll depth (before ++ cs) = closesAll depth before := by
  induction before generalizing depth with
  | nil =>
    have hlast := h.closesAll_append depth []
    rwa [List.append_nil] at hlast
  | cons c before ih => simp only [List.cons_append, closesAll, ih]

/-! ## Trimmed texts -/

/-- Blanks are no brackets. -/
theorem balanced_of_isBlank {cs : List Char} (h : ∀ c ∈ cs, Text.isBlank c = true) :
    Balanced cs := by
  induction cs with
  | nil => exact .nil
  | cons c cs ih =>
    have hc := h c List.mem_cons_self
    refine .char ?_ ?_ (ih fun d hd => h d (List.mem_cons_of_mem c hd))
    · rintro rfl
      exact absurd hc (by decide)
    · rintro rfl
      exact absurd hc (by decide)

/-- Trimming takes blanks off both ends. -/
theorem exists_trim (cs : List Char) :
    ∃ before after, (∀ c ∈ before, Text.isBlank c = true) ∧ (∀ c ∈ after, Text.isBlank c = true) ∧
      cs = before ++ (Text.trim cs ++ after) := by
  refine ⟨cs.takeWhile Text.isBlank, (Text.trimStart cs).rtakeWhile Text.isBlank,
    fun c => List.mem_takeWhile_imp, fun c => List.mem_rtakeWhile_imp, ?_⟩
  have hend : Text.trim cs ++ (Text.trimStart cs).rtakeWhile Text.isBlank = Text.trimStart cs :=
    List.rdropWhile_append_rtakeWhile
  rw [hend, Text.trimStart, List.takeWhile_append_dropWhile]

/-- A trimmed text is balanced exactly when the whole text is. -/
theorem balanced_trim_iff (cs : List Char) : Balanced (Text.trim cs) ↔ Balanced cs := by
  obtain ⟨before, after, hbefore, hafter, heq⟩ := exists_trim cs
  have hclosed : closesAll 0 cs = closesAll 0 (Text.trim cs) := by
    rw [heq, (balanced_of_isBlank hbefore).closesAll_append,
      (balanced_of_isBlank hafter).closesAll_append_left, ← heq]
  rw [balanced_iff_closesAll, balanced_iff_closesAll, hclosed]

/-- A trimmed text has no blanks at its ends. -/
theorem trim_trim (cs : List Char) : Text.trim (Text.trim cs) = Text.trim cs := by
  have hbegins : Text.trim cs <+: Text.trimStart cs := List.rdropWhile_prefix Text.isBlank _
  have hstart : Text.trimStart (Text.trim cs) = Text.trim cs := by
    rw [Text.trimStart, List.dropWhile_eq_self_iff]
    intro hpos
    rw [hbegins.getElem hpos]
    exact List.dropWhile_get_zero_not _ _ _
  calc Text.trim (Text.trim cs) = Text.trimEnd (Text.trim cs) := by rw [Text.trim, hstart]
    _ = Text.trim cs := List.rdropWhile_idempotent Text.isBlank _

/-! ## Unwrapping -/

/-- There are brackets at both ends of the text, but the first of them is closed before the end. -/
def Torn (text : List Char) : Prop :=
  ∃ inner rest, Balanced inner ∧ text = '[' :: (inner ++ ']' :: rest) ++ [']']

/-- What stands between brackets is unwrapped and trimmed. -/
theorem unwrap_brackets (inner : List Char) :
    unwrap ('[' :: inner ++ [']']) = Text.trim inner := by
  simp [unwrap]

/-- Without brackets at both ends there is nothing to unwrap. -/
theorem unwrap_eq_self {text : List Char} (h : ∀ inner, text ≠ '[' :: inner ++ [']']) :
    unwrap text = text := by
  unfold unwrap
  split
  · next inner =>
    split
    · next hlast =>
      obtain ⟨names, rfl⟩ := List.getLast?_eq_some_iff.mp (eq_of_beq hlast)
      exact absurd rfl (h names)
    · rfl
  · rfl

/-- Brackets at both ends of a balanced text match each other, or the text is torn. -/
theorem Balanced.inner_or_torn {inner : List Char} (h : Balanced ('[' :: inner ++ [']'])) :
    Balanced inner ∨ Torn ('[' :: inner ++ [']']) := by
  rw [balanced_iff_closesAll, List.cons_append, closesAll, if_pos rfl] at h
  obtain ⟨first, rest, hfirst, -, heq⟩ := (balanced_of_closesAll _ _ rfl).2 0 h
  rcases List.eq_nil_or_concat rest with rfl | ⟨rest, c, rfl⟩
  · rw [(List.append_inj' heq rfl).1]
    exact .inl hfirst
  · rw [List.concat_eq_append, ← List.cons_append, ← List.append_assoc] at heq
    obtain ⟨hinner, -⟩ := List.append_inj' heq rfl
    exact .inr ⟨first, rest, hfirst, by rw [hinner]⟩

/-- What is torn is no longer balanced without its ends. -/
theorem Torn.not_balanced_unwrap {text : List Char} (h : Torn text) : ¬ Balanced (unwrap text) := by
  obtain ⟨inner, rest, hinner, rfl⟩ := h
  rw [unwrap_brackets, balanced_trim_iff]
  exact hinner.not_append_close rest

/-- Unwrapping keeps brackets balanced, unless the text is torn. -/
theorem balanced_unwrap_iff {text : List Char} (h : Balanced text) :
    Balanced (unwrap text) ↔ ¬ Torn text := by
  refine ⟨fun hunwrap htorn => htorn.not_balanced_unwrap hunwrap, fun htorn => ?_⟩
  by_cases hends : ∃ inner, text = '[' :: inner ++ [']']
  · obtain ⟨inner, rfl⟩ := hends
    rw [unwrap_brackets, balanced_trim_iff]
    exact h.inner_or_torn.resolve_right htorn
  · rw [unwrap_eq_self fun inner heq => hends ⟨inner, heq⟩]
    exact h

/-- What is unwrapped has no blanks at its ends, if the text has none. -/
theorem trim_unwrap {text : List Char} (h : Text.trim text = text) :
    Text.trim (unwrap text) = unwrap text := by
  by_cases hends : ∃ inner, text = '[' :: inner ++ [']']
  · obtain ⟨inner, rfl⟩ := hends
    rw [unwrap_brackets, trim_trim]
  · rw [unwrap_eq_self fun inner heq => hends ⟨inner, heq⟩, h]

/-! ## Details -/

/-- A text as a detail; an empty one is none. -/
def detail? (text : List Char) : Option String :=
  if text = [] then none else some (String.ofList text)

theorem detailOf_eq (extra : String) :
    detailOf (some extra) = detail? (unwrap (Text.trim extra.toList)) := by
  unfold detailOf detail?
  rw [Option.getD_some]
  split
  · next hnil => rw [hnil, if_pos rfl]
  · next hne => rw [if_neg hne]

/-- The detail in a balanced text is trimmed and not empty, and it is balanced exactly if the text
is not torn.  Brackets that match each other are taken away from both ends, and a text without
brackets at both ends is left as it is.  What is torn has a detail, so that its brackets are taken
away although they do not match. -/
theorem detailOf_of_balanced (extra : String) (hextra : Balanced extra.toList) :
    let text := Text.trim extra.toList
    (∀ d, detailOf (some extra) = some d →
      d ≠ "" ∧ Text.strip d = d ∧ (Balanced d.toList ↔ ¬ Torn text)) ∧
    (∀ inner, Balanced inner → text = '[' :: inner ++ [']'] →
      detailOf (some extra) = detail? (Text.trim inner)) ∧
    ((∀ inner, text ≠ '[' :: inner ++ [']']) → detailOf (some extra) = detail? text) ∧
    (Torn text → ∃ d, detailOf (some extra) = some d) := by
  intro text
  have htext : Balanced text := (balanced_trim_iff _).mpr hextra
  rw [detailOf_eq]
  refine ⟨?_, ?_, ?_, ?_⟩
  · intro d hd
    unfold detail? at hd
    split at hd
    · simp at hd
    · next hne =>
      obtain rfl := Option.some.inj hd
      refine ⟨by simpa using hne, ?_, ?_⟩
      · rw [Text.strip, String.toList_ofList, trim_unwrap (trim_trim _)]
      · rw [String.toList_ofList]
        exact balanced_unwrap_iff htext
  · intro inner _ heq
    rw [show Text.trim extra.toList = _ from heq, unwrap_brackets]
  · intro hends
    rw [unwrap_eq_self hends]
  · intro htorn
    refine ⟨_, if_neg ?_⟩
    intro hnil
    exact htorn.not_balanced_unwrap (hnil ▸ .nil)

/-- A text in brackets that match, with a pair of them inside. -/
theorem detailOf_of_balanced_nested_pair :
    Balanced " [Expected: [a] ] ".toList ∧
      detailOf (some " [Expected: [a] ] ") = some "Expected: [a]" := by
  have hextra : Balanced " [Expected: [a] ] ".toList := by decide +kernel
  refine ⟨hextra, ?_⟩
  rw [(detailOf_of_balanced " [Expected: [a] ] " hextra).2.1 "Expected: [a] ".toList
    (by decide +kernel) (by decide +kernel)]
  decide +kernel

/-- Brackets at both ends are taken away although they do not match each other: of two pairs side
by side, one bracket of each is left. -/
theorem two_pairs_torn :
    Balanced "[a][b]".toList ∧ detailOf (some "[a][b]") = some "a][b" ∧
      ¬ Balanced "a][b".toList := by
  decide +kernel

end FenceLint.Finding
