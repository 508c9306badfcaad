import FenceLint.Markup.Styled
import FenceLint.Proofs.Markup.Cut
import FenceLint.Proofs.Text.Parted

/-!
# Which emoji codes a text has

A text is a row of characters and codes (`emojiParts`), and showing it replaces the codes that are
known (`replaceEmoji_eq`).  So a text is left as it is if no code of it is known, and otherwise it
parts from what is shown at the first one.
-/

namespace FenceLint.Markup

/-- The text can stand between the colons of a code. -/
def IsCodeName (name : List Char) : Prop := ∀ c ∈ name, c ≠ ':' ∧ Text.isBlank c = false

theorem emojiName?_eq_some_iff {cs name : List Char} :
    emojiName? cs = some name ↔ IsCodeName name ∧ ∃ rest, cs = name ++ ':' :: rest := by
  have hcut := List.takeWhile_append_dropWhile (p := fun c => c != ':' && !Text.isBlank c) (l := cs)
  rw [emojiName?]
  simp only [drop_length_takeWhile]
  constructor
  · intro h
    split at h
    · next rest hrest =>
      obtain rfl := Option.some.inj h
      refine ⟨fun c hc => by simpa using List.mem_takeWhile_imp hc, rest, ?_⟩
      rw [← hrest, hcut]
    · simp at h
  · rintro ⟨hname, rest, rfl⟩
    have hall : ∀ c ∈ name, (c != ':' && !Text.isBlank c) = true := by
      simpa [IsCodeName] using hname
    rw [List.dropWhile_append_of_pos hall, List.takeWhile_append_of_pos hall]
    simp

/-- No code that is begun in a text goes on behind it unless what is there begins with the end of a
code. -/
theorem emojiName?_append {cs ds : List Char} (hcs : emojiName? cs = none)
    (hds : emojiName? ds = none) : emojiName? (cs ++ ds) = none := by
  rw [Option.eq_none_iff_forall_ne_some] at *
  intro name hname
  obtain ⟨hvalid, rest, heq⟩ := emojiName?_eq_some_iff.mp hname
  rcases List.append_eq_append_iff.mp heq with ⟨mid, rfl, hmid⟩ | ⟨mid, rfl, hmid⟩
  · refine hds mid (emojiName?_eq_some_iff.mpr ⟨fun c hc => hvalid c (by simp [hc]), rest, hmid⟩)
  · cases mid with
    | nil => exact hds [] (emojiName?_eq_some_iff.mpr ⟨by simp [IsCodeName], rest, hmid.symm⟩)
    | cons c mid =>
      obtain ⟨rfl, -⟩ := List.cons.inj hmid
      exact hcs name (emojiName?_eq_some_iff.mpr ⟨hvalid, mid, rfl⟩)

theorem emojiName?_of_not_mem {cs : List Char} (h : ':' ∉ cs) : emojiName? cs = none := by
  rw [Option.eq_none_iff_forall_ne_some]
  intro name hname
  obtain ⟨-, rest, rfl⟩ := emojiName?_eq_some_iff.mp hname
  exact h (by simp)

theorem emojiName?_of_blank {c : Char} (hc : Text.isBlank c = true) (cs : List Char) :
    emojiName? (c :: cs) = none := by
  rw [Option.eq_none_iff_forall_ne_some]
  intro name hname
  obtain ⟨hvalid, rest, heq⟩ := emojiName?_eq_some_iff.mp hname
  cases name with
  | nil =>
    obtain ⟨rfl, -⟩ := List.cons.inj heq
    exact absurd hc (by decide)
  | cons d name =>
    obtain ⟨rfl, -⟩ := List.cons.inj heq
    simp [(hvalid c (by simp)).2] at hc

/-! ## Parts -/

/-- A part of a text. -/
inductive EmojiPart where
  /-- A character. -/
  | char (c : Char)
  /-- A name between colons. -/
  | code (name : List Char)
deriving DecidableEq

/-- The characters of a part. -/
def EmojiPart.chars : EmojiPart → List Char
  | char c => [c]
  | code name => ':' :: name ++ [':']

/-- What a part shows. -/
def EmojiPart.replaced : EmojiPart → List Char
  | char c => [c]
  | code name => (emojiFor? name).getD (':' :: name ++ [':'])

/-- The part is a character, or a code that is not known. -/
def EmojiPart.IsPlain : EmojiPart → Prop
  | char _ => True
  | code name => emojiFor? name = none

instance : DecidablePred EmojiPart.IsPlain
  | .char _ => inferInstanceAs (Decidable True)
  | .code name => inferInstanceAs (Decidable (emojiFor? name = none))

/-- The parts of a text; `skip` characters belong to the code before. -/
def emojiPartsFrom : Nat → List Char → List EmojiPart
  | _, [] => []
  | skip + 1, _ :: cs => emojiPartsFrom skip cs
  | 0, c :: cs =>
    match if c == ':' then emojiName? cs else none with
    | some name => .code name :: emojiPartsFrom (name.length + 1) cs
    | none => .char c :: emojiPartsFrom 0 cs

/-- The parts of a text. -/
def emojiParts (cs : List Char) : List EmojiPart := emojiPartsFrom 0 cs

/-- Every part of a text is replaced apart from the others. -/
theorem replaceEmoji_eq (cs : List Char) :
    replaceEmoji cs = (emojiParts cs).flatMap EmojiPart.replaced := by
  suffices h : ∀ skip, replaceEmojiFrom skip cs =
      (emojiPartsFrom skip cs).flatMap EmojiPart.replaced from h 0
  induction cs with
  | nil => simp [replaceEmojiFrom, emojiPartsFrom]
  | cons c cs ih =>
    intro skip
    cases skip with
    | succ skip => exact ih skip
    | zero =>
      rw [replaceEmojiFrom, emojiPartsFrom]
      cases (if c == ':' then emojiName? cs else none) with
      | none => simp [ih, EmojiPart.replaced]
      | some name => simp [ih, EmojiPart.replaced]

@[simp] theorem emojiParts_nil : emojiParts [] = [] := rfl

theorem emojiParts_char {c : Char} {cs : List Char} (hc : c = ':' → emojiName? cs = none) :
    emojiParts (c :: cs) = .char c :: emojiParts cs := by
  rw [emojiParts, emojiPartsFrom]
  by_cases hcolon : c = ':'
  · simp [hc hcolon, emojiParts]
  · simp [hcolon, emojiParts]

theorem emojiPartsFrom_skip (inside rest : List Char) :
    emojiPartsFrom inside.length (inside ++ rest) = emojiParts rest := by
  induction inside with
  | nil => rfl
  | cons c inside ih => exact ih

theorem emojiParts_code {name : List Char} (hname : IsCodeName name) (rest : List Char) :
    emojiParts (':' :: (name ++ ':' :: rest)) = .code name :: emojiParts rest := by
  have hsome : emojiName? (name ++ ':' :: rest) = some name :=
    emojiName?_eq_some_iff.mpr ⟨hname, rest, rfl⟩
  rw [emojiParts, emojiPartsFrom]
  simpa [hsome] using emojiPartsFrom_skip (name ++ [':']) rest

/-- A text read from its start, part by part. -/
inductive InParts : List Char → Prop where
  /-- Nothing. -/
  | nil : InParts []
  /-- A character that begins no code, then the rest. -/
  | char {c : Char} {cs : List Char} (hc : c = ':' → emojiName? cs = none) (hcs : InParts cs) :
    InParts (c :: cs)
  /-- A code, then the rest. -/
  | code {name rest : List Char} (hname : IsCodeName name) (hrest : InParts rest) :
    InParts (':' :: (name ++ ':' :: rest))

/-- Every text can be read part by part. -/
theorem inParts (cs : List Char) : InParts cs := by
  induction hn : cs.length using Nat.strongRecOn generalizing cs with
  | ind n ih =>
    cases cs with
    | nil => exact .nil
    | cons c cs =>
      rw [List.length_cons] at hn
      by_cases hcode : c = ':' ∧ (emojiName? cs).isSome
      · obtain ⟨rfl, hsome⟩ := hcode
        obtain ⟨name, hname⟩ := Option.isSome_iff_exists.mp hsome
        obtain ⟨hvalid, rest, rfl⟩ := emojiName?_eq_some_iff.mp hname
        refine .code hvalid (ih rest.length ?_ rest rfl)
        simp only [← hn, List.length_append, List.length_cons]
        omega
      · exact .char (fun hc => by simpa [hc] using hcode) (ih cs.length (by omega) cs rfl)

/-- The parts of a text make it up. -/
theorem flatMap_emojiParts (cs : List Char) :
    (emojiParts cs).flatMap EmojiPart.chars = cs := by
  induction inParts cs with
  | nil => rfl
  | char hc _ ih => rw [emojiParts_char hc, List.flatMap_cons, ih]; rfl
  | code hname _ ih => rw [emojiParts_code hname, List.flatMap_cons, ih]; simp [EmojiPart.chars]

/-- What comes after a text does not change its parts unless it begins with the end of a code. -/
theorem emojiParts_append (cs : List Char) {ds : List Char} (hds : emojiName? ds = none) :
    emojiParts (cs ++ ds) = emojiParts cs ++ emojiParts ds := by
  induction inParts cs with
  | nil => rfl
  | char hc _ ih =>
    have hc' := fun hcolon => emojiName?_append (hc hcolon) hds
    rw [List.cons_append, emojiParts_char hc', ih, emojiParts_char hc, List.cons_append]
  | @code name rest hname _ ih =>
    have h := emojiParts_code hname (rest ++ ds)
    rw [ih] at h
    rw [emojiParts_code hname]
    simpa using h

/-- A text without colons has only characters, whatever comes after it. -/
theorem emojiParts_append_of_not_mem {cs : List Char} (hcs : ':' ∉ cs) (ds : List Char) :
    emojiParts (cs ++ ds) = cs.map .char ++ emojiParts ds := by
  induction cs with
  | nil => rfl
  | cons c cs ih =>
    rw [List.mem_cons, not_or] at hcs
    rw [List.cons_append, emojiParts_char fun hc => absurd hc.symm hcs.1, ih hcs.2]
    rfl

theorem emojiParts_of_not_mem {cs : List Char} (hcs : ':' ∉ cs) :
    emojiParts cs = cs.map .char := by
  simpa using emojiParts_append_of_not_mem hcs []

/-! ## What is shown -/

/-- An emoji begins with neither a colon nor a backslash, and nothing in it is hidden. -/
def IsEmoji (cs : List Char) : Prop :=
  (∃ c ∈ cs.head?, c ≠ ':' ∧ c ≠ '\\') ∧ ∀ c ∈ cs, isControl c = false

instance : DecidablePred IsEmoji
  | [] => isFalse (by simp [IsEmoji])
  | c :: cs =>
    have := List.decidableBAll (fun c => isControl c = false) (c :: cs)
    decidable_of_iff ((c ≠ ':' ∧ c ≠ '\\') ∧ ∀ d ∈ c :: cs, isControl d = false) (by simp [IsEmoji])

/-- All names stand for emoji. -/
theorem isEmoji_of_mem_emojiNames : ∀ entry ∈ emojiNames, IsEmoji entry.2 := by decide +kernel

/-- What a code stands for is an emoji. -/
theorem isEmoji_of_emojiFor? {name emoji : List Char} (h : emojiFor? name = some emoji) :
    IsEmoji emoji := by
  have hvariants : ∀ v ∈ variants, isControl v.2 = false := by decide
  have hlookup : ∀ {key : String} {cs : List Char}, emojiNames.lookup key = some cs →
      IsEmoji cs := by
    intro key cs hkey
    obtain ⟨before, after, hmem, -⟩ := List.lookup_eq_some_iff.mp hkey
    exact isEmoji_of_mem_emojiNames (key, cs) (by rw [hmem]; simp)
  rw [emojiFor?] at h
  split at h
  · next ending mark hfind =>
    obtain ⟨cs, hcs, rfl⟩ := Option.map_eq_some_iff.mp h
    obtain ⟨⟨c, hhead, hc⟩, hcontrol⟩ := hlookup hcs
    refine ⟨⟨c, ?_, hc⟩, ?_⟩
    · rw [Option.mem_def] at *
      rw [List.head?_append, hhead, Option.some_or]
    · intro c hc
      rcases List.mem_append.mp hc with hc | hc
      · exact hcontrol c hc
      · rw [List.mem_singleton.mp hc]
        exact hvariants _ (List.mem_of_find?_eq_some hfind)
  · exact hlookup h

/-- A part that is plain shows its characters. -/
theorem EmojiPart.IsPlain.replaced_eq {p : EmojiPart} (h : p.IsPlain) : p.replaced = p.chars := by
  cases p with
  | char c => rfl
  | code name => rw [replaced, show emojiFor? name = none from h]; rfl

/-- A code that is known shows something else from its first colon on. -/
theorem EmojiPart.replaced_parted {p : EmojiPart} (h : ¬ p.IsPlain) :
    Text.PartedBy (fun a b => a ≠ ':' ∧ b = ':') p.replaced p.chars := by
  cases p with
  | char c => exact absurd trivial h
  | code name =>
    obtain ⟨emoji, hemoji⟩ := Option.ne_none_iff_exists'.mp h
    obtain ⟨⟨c, hhead, hc, -⟩, -⟩ := isEmoji_of_emojiFor? hemoji
    obtain ⟨cs, rfl⟩ := List.head?_eq_some_iff.mp hhead
    refine ⟨[], c, ':', cs, name ++ [':'], ⟨hc, rfl⟩, ?_, rfl⟩
    rw [replaced, hemoji]
    rfl

/-- No code in the text is known. -/
def CodeFree (cs : List Char) : Prop := ∀ p ∈ emojiParts cs, p.IsPlain

instance (cs : List Char) : Decidable (CodeFree cs) :=
  inferInstanceAs (Decidable (∀ p ∈ emojiParts cs, p.IsPlain))

/-- A text without known codes is left as it is. -/
theorem CodeFree.replaceEmoji_eq {cs : List Char} (h : CodeFree cs) : replaceEmoji cs = cs := by
  rw [Markup.replaceEmoji_eq, List.flatMap_congr fun p hp => (h p hp).replaced_eq,
    flatMap_emojiParts]

/-- A text with a known code parts from what is shown at a colon. -/
theorem replaceEmoji_parted {cs : List Char} (h : ¬ CodeFree cs) :
    Text.PartedBy (fun a b => a ≠ ':' ∧ b = ':') (replaceEmoji cs) cs := by
  have hparted := Text.PartedBy.flatMap (l := emojiParts cs) (p := EmojiPart.IsPlain)
    (fun p _ hp => hp.replaced_eq) (fun p _ hp => EmojiPart.replaced_parted hp) h
  rwa [← replaceEmoji_eq, flatMap_emojiParts] at hparted

/-- All that is shown stands in the text, or in an emoji. -/
theorem isControl_of_mem_replaceEmoji {cs : List Char} (h : ∀ c ∈ cs, isControl c = false) :
    ∀ c ∈ replaceEmoji cs, isControl c = false := by
  intro c hc
  rw [replaceEmoji_eq, List.mem_flatMap] at hc
  obtain ⟨p, hp, hc⟩ := hc
  by_cases hplain : p.IsPlain
  · rw [hplain.replaced_eq] at hc
    refine h c ?_
    rw [← flatMap_emojiParts cs]
    exact List.mem_flatMap.mpr ⟨p, hp, hc⟩
  · cases p with
    | char c => exact absurd trivial hplain
    | code name =>
      obtain ⟨emoji, hemoji⟩ := Option.ne_none_iff_exists'.mp hplain
      rw [EmojiPart.replaced, hemoji] at hc
      exact (isEmoji_of_emojiFor? hemoji).2 c hc

theorem replaceEmoji_append (cs : List Char) {ds : List Char} (hds : ':' ∉ ds) :
    replaceEmoji (cs ++ ds) = replaceEmoji cs ++ ds := by
  rw [replaceEmoji_eq, emojiParts_append cs (emojiName?_of_not_mem hds), List.flatMap_append,
    ← replaceEmoji_eq, emojiParts_of_not_mem hds]
  simp [List.flatMap_map, EmojiPart.replaced]

end FenceLint.Markup
