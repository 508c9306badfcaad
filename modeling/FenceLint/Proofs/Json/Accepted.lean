import FenceLint.Proofs.Json.Reading
import Mathlib.Data.List.TakeWhile

/-!
# What the reader accepts

The reader takes nothing but the grammar: what it reads is the text of lexemes that are a value,
with white space before them (`exists_writes_of_document`).  This is the converse of
`Derives.reads`.  The leaves come first: literals, the parts of a number, and words.  A value is
then taken apart by induction on its depth, and the elements of a list or object by induction on the
fuel.  Besides, an object that is read has distinct keys (`nodup_of_document`).
-/

namespace FenceLint.Json

open Reader

/-! ## Results -/

section

variable {α β : Type} {r : Read α}

/-- A reader that goes on after another one succeeds only if both do. -/
theorem exists_of_bind {next : α × List Char → Read β} {x : β × List Char}
    (h : r.bind next = .ok x) : ∃ v rest, r = .ok (v, rest) ∧ next (v, rest) = .ok x := by
  cases r with
  | error f => simp [Except.bind] at h
  | ok p => exact ⟨p.1, p.2, rfl, h⟩

/-- A reader whose value is changed leaves what it left before. -/
theorem exists_of_map {f : α → β} {w : β} {rest : List Char}
    (h : (r.map fun (v, rest) => (f v, rest)) = .ok (w, rest)) :
    ∃ v, r = .ok (v, rest) ∧ f v = w := by
  cases r with
  | error f => simp [Except.map] at h
  | ok p =>
    obtain ⟨hw, hrest⟩ := Prod.mk.inj (Except.ok.inj h)
    exact ⟨p.1, by rw [← hrest], hw⟩

end

/-- The reader skips white space. -/
theorem exists_of_skipWhite {cs rest : List Char} (h : skipWhite cs = rest) :
    ∃ w, White w ∧ cs = w ++ rest := by
  refine ⟨cs.takeWhile isWhite, fun c hc => isWhite_iff.1 (List.mem_takeWhile_imp hc), ?_⟩
  rw [← h, skipWhite, List.takeWhile_append_dropWhile]

/-! ## Literals -/

/-- Only the digits of the grammar have a value. -/
theorem mem_hexDigits_of_hexValue? {c : Char} {n : Nat} (h : hexValue? c = some n) :
    c ∈ hexDigits := by
  have hascii : ∀ n, n < 128 → (hexValue? (Char.ofNat n)).isSome = true →
      Char.ofNat n ∈ hexDigits := by
    decide +kernel
  have hsmall : c.toNat < 128 := by
    have hle : ∀ {a b : Char}, a ≤ b → a.toNat ≤ b.toNat := fun h => h
    unfold hexValue? at h
    simp only [Bool.and_eq_true, decide_eq_true_eq] at h
    split at h
    · next hc => exact Nat.lt_of_le_of_lt (hle hc.2) (by decide)
    · split at h
      · next hc => exact Nat.lt_of_le_of_lt (hle hc.2) (by decide)
      · split at h
        · next hc => exact Nat.lt_of_le_of_lt (hle hc.2) (by decide)
        · cases h
  have hmem := hascii c.toNat hsmall
  rw [Char.ofNat_toNat, h] at hmem
  exact hmem rfl

/-- Only digits make a number. -/
theorem mem_hexDigits_of_hexNumber? {cs : List Char} {n : Nat} (h : hexNumber? cs = some n) :
    ∀ c ∈ cs, c ∈ hexDigits := by
  have hfold : ∀ {cs : List Char} {m : Nat},
      cs.foldlM (fun n c => (hexValue? c).map (16 * n + ·)) m = some n →
        ∀ c ∈ cs, c ∈ hexDigits := by
    intro cs
    induction cs with
    | nil => simp
    | cons c cs ih =>
      intro m hm
      rw [List.foldlM_cons] at hm
      obtain ⟨m', hm', hrest⟩ := Option.bind_eq_some_iff.1 hm
      obtain ⟨d, hd, -⟩ := Option.map_eq_some_iff.1 hm'
      exact List.forall_mem_cons.2 ⟨mem_hexDigits_of_hexValue? hd, ih hrest⟩
  exact hfold h

/-- Only the letters of the grammar may stand after a backslash. -/
theorem mem_of_simpleEscape? {c e : Char} (h : simpleEscape? c = some e) :
    c ∈ ['"', '\\', '/', 'b', 'f', 'n', 'r', 't'] := by
  by_contra hc
  simp only [List.mem_cons, List.not_mem_nil, or_false, not_or] at hc
  simp [simpleEscape?, hc] at h

/-- What was read after a piece. -/
theorem exists_of_prepend {p : Piece} {r : Read (List Piece)} {ps : List Piece} {rest : List Char}
    (h : prepend p r = .ok (ps, rest)) : ∃ ps', r = .ok (ps', rest) := by
  obtain ⟨ps', hps', -⟩ := exists_of_map h
  exact ⟨ps', hps'⟩

/-- A literal is a body of the grammar with a quote after it. -/
theorem exists_literalBody {start cs : List Char} {ps : List Piece} {rest : List Char}
    (h : pieces start cs = .ok (ps, rest)) :
    ∃ body, LiteralBody body ∧ cs = body ++ '"' :: rest := by
  fun_induction pieces start cs generalizing ps rest with
  | case2 a b c d n x xs hhex ih =>
    obtain ⟨_, hps⟩ := exists_of_prepend h
    obtain ⟨body, hbody, hcs⟩ := ih hps
    exact ⟨_, .unicode (mem_hexDigits_of_hexNumber? hhex) hbody, by rw [hcs]; rfl⟩
  | case5 c cs _ _ e he ih =>
    obtain ⟨_, hps⟩ := exists_of_prepend h
    obtain ⟨body, hbody, rfl⟩ := ih hps
    exact ⟨_, .escape (mem_of_simpleEscape? he) hbody, rfl⟩
  | case8 c cs _ _ _ _ hquote =>
    obtain ⟨-, rfl⟩ := Prod.mk.inj (Except.ok.inj h)
    exact ⟨[], .nil, by rw [eq_of_beq hquote]; rfl⟩
  | case10 c cs _ _ hescape hend hquote hcontrol ih =>
    obtain ⟨_, hps⟩ := exists_of_prepend h
    obtain ⟨body, hbody, rfl⟩ := ih hps
    have hescape : c ≠ '\\' := by
      intro hc
      cases hbody with
      | nil => exact hescape _ _ hc rfl
      | plain | escape | unicode => exact hescape _ _ hc rfl
    exact ⟨_, .plain (by simpa using hquote) hescape (by omega) hbody, rfl⟩
  | case1 | case3 | case4 | case6 | case7 | case9 => contradiction

theorem exists_of_string {start cs : List Char} {s : String} {rest : List Char}
    (h : string start cs = .ok (s, rest)) :
    ∃ body, LiteralBody body ∧ cs = body ++ '"' :: rest := by
  obtain ⟨ps, hps, -⟩ := exists_of_map (f := fun ps => String.ofList (joinPieces ps)) h
  exact exists_literalBody hps

/-! ## Numbers -/

/-- A run of digits that is not empty. -/
theorem digits_takeWhile {cs : List Char} (h : cs.takeWhile Char.isDigit ≠ []) :
    Digits (cs.takeWhile Char.isDigit) :=
  ⟨h, fun _ hc => List.mem_takeWhile_imp hc⟩

theorem of_wholePart? {cs whole rest : List Char} (h : wholePart? cs = some (whole, rest)) :
    IsWhole whole ∧ cs = whole ++ rest := by
  unfold wholePart? at h
  split at h
  · obtain ⟨rfl, rfl⟩ := Prod.mk.inj (Option.some.inj h)
    exact ⟨.inl rfl, rfl⟩
  · next c cs hzero =>
    split at h
    · next hdigit =>
      obtain ⟨rfl, rfl⟩ := Prod.mk.inj (Option.some.inj h)
      refine ⟨.inr ⟨digits_takeWhile (by simp [hdigit]), ?_⟩, List.takeWhile_append_dropWhile.symm⟩
      simpa [hdigit] using hzero
    · contradiction
  · contradiction

theorem of_fraction? {cs ds rest : List Char} (h : fraction? cs = some (ds, rest)) :
    Digits ds ∧ cs = '.' :: (ds ++ rest) := by
  unfold fraction? at h
  split at h
  · next cs =>
    simp only [List.isEmpty_iff] at h
    split at h
    · contradiction
    · next hdigits =>
      obtain ⟨rfl, rfl⟩ := Prod.mk.inj (Option.some.inj h)
      exact ⟨digits_takeWhile hdigits, by rw [List.takeWhile_append_dropWhile]⟩
  · contradiction

theorem exists_of_exponent? {cs rest : List Char} {n : Int} (h : exponent? cs = some (n, rest)) :
    ∃ exponent, IsExponent exponent ∧ cs = exponent ++ rest := by
  unfold exponent? at h
  split at h
  · next e cs =>
    split at h
    · next he =>
      have he : e = 'e' ∨ e = 'E' := by simpa using he
      split at h
      next negative unsigned hsign =>
      obtain ⟨s, hs, rfl⟩ : ∃ s, (s = [] ∨ s = ['+'] ∨ s = ['-']) ∧ cs = s ++ unsigned := by
        split at hsign
        · obtain ⟨-, rfl⟩ := Prod.mk.inj hsign
          exact ⟨['-'], .inr (.inr rfl), rfl⟩
        · obtain ⟨-, rfl⟩ := Prod.mk.inj hsign
          exact ⟨['+'], .inr (.inl rfl), rfl⟩
        · obtain ⟨-, rfl⟩ := Prod.mk.inj hsign
          exact ⟨[], .inl rfl, rfl⟩
      simp only [List.isEmpty_iff] at h
      split at h
      · contradiction
      · next hdigits =>
        obtain ⟨-, rfl⟩ := Prod.mk.inj (Option.some.inj h)
        refine ⟨_, ⟨e, s, _, he, hs, digits_takeWhile hdigits, rfl⟩, ?_⟩
        rw [List.cons_append, List.append_assoc, List.takeWhile_append_dropWhile]
    · contradiction
  · contradiction

/-- After the digits before the point, a fraction and an exponent are read, if they are there. -/
theorem exists_of_numberAfter {negative : Bool} {whole cs rest : List Char} {v : Value}
    (h : numberAfter negative whole cs = .ok (v, rest)) :
    ∃ fraction exponent, (fraction = [] ∨ IsFraction fraction) ∧
      (exponent = [] ∨ IsExponent exponent) ∧ cs = fraction ++ (exponent ++ rest) := by
  obtain ⟨fraction, hfraction, hcs⟩ : ∃ fraction, (fraction = [] ∨ IsFraction fraction) ∧
      cs = fraction ++ ((fraction? cs).getD ([], cs)).2 := by
    cases hf : fraction? cs with
    | none => exact ⟨[], .inl rfl, rfl⟩
    | some p =>
      obtain ⟨hds, hcs⟩ := of_fraction? hf
      exact ⟨_, .inr ⟨p.1, hds, rfl⟩, hcs⟩
  rw [numberAfter] at h
  generalize hafter : (fraction? cs).getD ([], cs) = p at h hcs
  obtain ⟨decimals, after⟩ := p
  simp only at h hcs
  split at h
  · -- Neither is there: the number ends where the reader stands.
    next hf he =>
    rw [hf] at hafter
    obtain ⟨-, rfl⟩ := Prod.mk.inj hafter
    rw [wholeNumber] at h
    split at h
    · contradiction
    · obtain ⟨-, rfl⟩ := Prod.mk.inj (Except.ok.inj h)
      exact ⟨[], [], .inl rfl, .inl rfl, rfl⟩
  · obtain ⟨-, rfl⟩ := Prod.mk.inj (Except.ok.inj h)
    cases he : exponent? after with
    | none => exact ⟨fraction, [], hfraction, .inl rfl, hcs⟩
    | some q =>
      obtain ⟨exponent, hexponent, hafter⟩ := exists_of_exponent? he
      exact ⟨fraction, exponent, hfraction, .inr hexponent, by rw [hcs, hafter]; rfl⟩

/-- A number of the grammar was read. -/
theorem exists_of_number? {cs rest : List Char} {v : Value}
    (h : number? cs = some (.ok (v, rest))) : ∃ text, NumberText text ∧ cs = text ++ rest := by
  unfold number? at h
  split at h
  next negative unsigned hsign =>
  obtain ⟨sign, hsign', rfl⟩ : ∃ sign, (sign = [] ∨ sign = ['-']) ∧ cs = sign ++ unsigned := by
    split at hsign
    · obtain ⟨-, rfl⟩ := Prod.mk.inj hsign
      exact ⟨['-'], .inr rfl, rfl⟩
    · obtain ⟨-, rfl⟩ := Prod.mk.inj hsign
      exact ⟨[], .inl rfl, rfl⟩
  obtain ⟨⟨whole, after⟩, hpart, hafter⟩ := Option.map_eq_some_iff.1 h
  obtain ⟨hwhole, rfl⟩ := of_wholePart? hpart
  obtain ⟨fraction, exponent, hfraction, hexponent, rfl⟩ := exists_of_numberAfter hafter
  exact ⟨_, .mk hsign' hwhole hfraction hexponent, by simp only [List.append_assoc]⟩

/-! ## Scalars -/

/-- A word of the grammar was read. -/
theorem exists_of_word? {cs rest : List Char} {v : Value} (h : word? cs = some (v, rest)) :
    ∃ w ∈ wordTexts, (w, v) ∈ words ∧ cs = w.toList ++ rest := by
  rw [word?] at h
  obtain ⟨⟨w, u⟩, hmem, hw⟩ := List.exists_of_findSome?_eq_some h
  simp only at hw
  split at hw
  · next hstart =>
    obtain ⟨rfl, rfl⟩ := Prod.mk.inj (Option.some.inj hw)
    refine ⟨w, List.mem_map_of_mem (f := Prod.fst) hmem, hmem, ?_⟩
    obtain ⟨rest, rfl⟩ := List.isPrefixOf_iff_prefix.1 hstart
    rw [← String.length_toList, List.drop_left]
  · contradiction

/-- A scalar is a single lexeme. -/
theorem exists_of_scalar {cs rest : List Char} {v : Value} (h : scalar cs = .ok (v, rest)) :
    ∃ t, Derives .value [t] ∧ cs = t.text ++ rest := by
  unfold scalar at h
  split at h
  · obtain ⟨s, hs, -⟩ := exists_of_map (f := Value.str) h
    obtain ⟨body, hbody, rfl⟩ := exists_of_string hs
    exact ⟨.literal body, .literal hbody, by simp [Lexeme.text]⟩
  · split at h
    · next r hr =>
      obtain rfl := Except.ok.inj h
      obtain ⟨w, hw, -, rfl⟩ := exists_of_word? hr
      exact ⟨.bare w.toList, .bare (.word hw), rfl⟩
    · cases hnumber : number? cs with
      | none => simp [hnumber] at h
      | some r =>
        rw [hnumber, Option.getD_some] at h
        rw [h] at hnumber
        obtain ⟨text, htext, rfl⟩ := exists_of_number? hnumber
        exact ⟨.bare text, .bare (.number htext), rfl⟩

/-! ## Values -/

/-- The reader takes phrases: after white space, what it reads is the text of a phrase and of the
lexemes that close it. -/
def Takes {α : Type} (p : Phrase) (close : List Lexeme) (read : List Char → Read α) : Prop :=
  ∀ cs v rest, read (skipWhite cs) = .ok (v, rest) →
    ∃ ts text, Derives p ts ∧ Spaced (ts ++ close) text ∧ cs = text ++ rest

/-- Texts of two sequences with a mark between them. -/
theorem Spaced.append_cons {ts us : List Lexeme} {text text' w : List Char} (h : Spaced ts text)
    (hw : White w) (t : Lexeme) (h' : Spaced us text') :
    Spaced (ts ++ t :: us) (text ++ (w ++ (t.text ++ text'))) :=
  h.append (.cons hw h')

theorem takes_items {value : List Char → Read Value} (hvalue : Takes .value [] value) (n : Nat) :
    Takes .items [.closeList] (items value n) := by
  induction n with
  | zero =>
    intro cs v rest h
    contradiction
  | succ n ih =>
    intro cs vs rest h
    rw [items] at h
    obtain ⟨v, after, hv, hafter⟩ := exists_of_bind h
    obtain ⟨ts, text, hts, htext, rfl⟩ := hvalue cs v after hv
    rw [List.append_nil] at htext
    simp only at hafter
    split at hafter
    · next hskip =>
      obtain ⟨w, hw, rfl⟩ := exists_of_skipWhite hskip
      obtain ⟨-, rfl⟩ := Prod.mk.inj (Except.ok.inj hafter)
      exact ⟨ts, _, .lastItem hts, htext.append_cons hw .closeList .nil, by simp [Lexeme.text]⟩
    · next hskip =>
      obtain ⟨w, hw, rfl⟩ := exists_of_skipWhite hskip
      obtain ⟨us, hus, -⟩ := exists_of_map (f := (v :: ·)) hafter
      obtain ⟨ts', text', hts', htext', rfl⟩ := ih _ us rest hus
      have hjoined := htext.append_cons hw .comma htext'
      rw [← List.cons_append, ← List.append_assoc] at hjoined
      exact ⟨_, _, .item hts hts', hjoined, by simp [Lexeme.text]⟩
    · contradiction

/-- A key, its colon and a value were read. -/
theorem exists_of_member {value : List Char → Read Value} (hvalue : Takes .value [] value)
    {cs rest : List Char} {p : String × Value} (h : member value (skipWhite cs) = .ok (p, rest)) :
    ∃ key ts text, LiteralBody key ∧ Derives .value ts ∧
      Spaced (.literal key :: .colon :: ts) text ∧ cs = text ++ rest := by
  unfold member at h
  split at h
  · next hskip =>
    obtain ⟨w, hw, rfl⟩ := exists_of_skipWhite hskip
    obtain ⟨k, after, hk, hafter⟩ := exists_of_bind h
    obtain ⟨key, hkey, rfl⟩ := exists_of_string hk
    simp only at hafter
    split at hafter
    · next hcolon =>
      obtain ⟨w', hw', rfl⟩ := exists_of_skipWhite hcolon
      obtain ⟨v, hv, -⟩ := exists_of_map (f := (k, ·)) hafter
      obtain ⟨ts, text, hts, htext, rfl⟩ := hvalue _ v rest hv
      rw [List.append_nil] at htext
      refine ⟨key, ts, _, hkey, hts, .cons hw (.cons hw' htext), ?_⟩
      simp [Lexeme.text]
    · contradiction
  · contradiction

theorem takes_members {value : List Char → Read Value} (hvalue : Takes .value [] value) (n : Nat)
    (fields : Fields) : Takes .members [.closeObject] (members value n fields) := by
  induction n generalizing fields with
  | zero =>
    intro cs v rest h
    contradiction
  | succ n ih =>
    intro cs fs rest h
    rw [members] at h
    obtain ⟨p, after, hp, hafter⟩ := exists_of_bind h
    obtain ⟨key, ts, text, hkey, hts, htext, rfl⟩ := exists_of_member hvalue hp
    simp only at hafter
    split at hafter
    · next hskip =>
      obtain ⟨w, hw, rfl⟩ := exists_of_skipWhite hskip
      obtain ⟨-, rfl⟩ := Prod.mk.inj (Except.ok.inj hafter)
      exact ⟨_, _, .lastMember hkey hts, htext.append_cons hw .closeObject .nil,
        by simp [Lexeme.text]⟩
    · next hskip =>
      obtain ⟨w, hw, rfl⟩ := exists_of_skipWhite hskip
      obtain ⟨us, text', hus, htext', rfl⟩ := ih _ _ fs rest hafter
      have hjoined := htext.append_cons hw .comma htext'
      rw [← List.cons_append, ← List.append_assoc] at hjoined
      exact ⟨_, _, .member hkey hts hus, hjoined, by simp [Lexeme.text]⟩
    · contradiction

theorem takes_scalar : Takes .value [] scalar := by
  intro cs v rest h
  obtain ⟨t, ht, hskip⟩ := exists_of_scalar h
  obtain ⟨w, hw, rfl⟩ := exists_of_skipWhite hskip
  exact ⟨[t], w ++ t.text, ht, (Spaced.single t).white_append hw, by simp⟩

/-- A value that was read is a phrase of the grammar. -/
theorem takes_value (depth : Nat) : Takes .value [] (value depth) := by
  induction depth with
  | zero =>
    intro cs v rest h
    unfold value at h
    split at h
    · contradiction
    · contradiction
    · exact takes_scalar cs v rest h
  | succ depth ih =>
    intro cs v rest h
    unfold value at h
    split at h
    · next hskip =>
      obtain ⟨w, hw, rfl⟩ := exists_of_skipWhite hskip
      split at h
      · next hclose =>
        obtain ⟨w', hw', rfl⟩ := exists_of_skipWhite hclose
        obtain ⟨-, rfl⟩ := Prod.mk.inj (Except.ok.inj h)
        exact ⟨_, _, .emptyList, .cons hw (.cons hw' .nil), by simp [Lexeme.text]⟩
      · obtain ⟨vs, hvs, -⟩ := exists_of_map (f := Value.list) h
        obtain ⟨ts, text, hts, htext, rfl⟩ := takes_items ih _ _ vs rest hvs
        refine ⟨_, w ++ ('[' :: text), .list hts, ?_, by simp⟩
        rw [List.append_nil]
        exact .cons hw htext
    · next hskip =>
      obtain ⟨w, hw, rfl⟩ := exists_of_skipWhite hskip
      split at h
      · next hclose =>
        obtain ⟨w', hw', rfl⟩ := exists_of_skipWhite hclose
        obtain ⟨-, rfl⟩ := Prod.mk.inj (Except.ok.inj h)
        exact ⟨_, _, .emptyObject, .cons hw (.cons hw' .nil), by simp [Lexeme.text]⟩
      · obtain ⟨fs, hfs, -⟩ := exists_of_map (f := Value.object) h
        obtain ⟨ts, text, hts, htext, rfl⟩ := takes_members ih _ _ _ fs rest hfs
        refine ⟨_, w ++ ('\x7b' :: text), .object hts, ?_, by simp⟩
        rw [List.append_nil]
        exact .cons hw htext
    · exact takes_scalar cs v rest h

/-! ## Texts -/

theorem exists_of_document {cs : List Char} {v : Value} (h : document cs = .ok v) :
    ∃ rest, White rest ∧ value Limit.maxDepth (skipWhite cs) = .ok (v, rest) := by
  unfold document at h
  split at h
  · contradiction
  · cases hvalue : value Limit.maxDepth (skipWhite cs) with
    | error f => simp [hvalue, Except.bind] at h
    | ok p =>
      rw [hvalue] at h
      simp only [Except.bind] at h
      split at h
      · next hend =>
        obtain rfl := Except.ok.inj h
        obtain ⟨w, hw, hrest⟩ := exists_of_skipWhite hend
        rw [List.append_nil] at hrest
        exact ⟨w, hw, by rw [← hrest]⟩
      · contradiction

/-- A text that is read is a plain text of the grammar. -/
theorem exists_writes_of_document {cs : List Char} {v : Value} (h : document cs = .ok v) :
    ∃ ts, Derives .value ts ∧ Writes ts cs := by
  obtain ⟨rest, hrest, hvalue⟩ := exists_of_document h
  obtain ⟨ts, text, hts, htext, rfl⟩ := takes_value Limit.maxDepth cs v rest hvalue
  rw [List.append_nil] at htext
  exact ⟨ts, hts, text, rest, htext, hrest, rfl⟩

/-- No number is an object. -/
theorem numberAfter_ne_object {negative : Bool} {whole cs rest : List Char} {fields : Fields} :
    numberAfter negative whole cs ≠ .ok (.object fields, rest) := by
  intro h
  simp only [numberAfter] at h
  split at h
  · rw [wholeNumber] at h
    split at h <;> simp at h
  · simp at h

/-- No scalar is an object. -/
theorem scalar_ne_object {cs rest : List Char} {fields : Fields} :
    scalar cs ≠ .ok (.object fields, rest) := by
  intro h
  unfold scalar at h
  split at h
  · obtain ⟨s, -, hs⟩ := exists_of_map (f := Value.str) h
    contradiction
  · split at h
    · next hword =>
      obtain rfl := Except.ok.inj h
      obtain ⟨w, -, hw, -⟩ := exists_of_word? hword
      simp [words] at hw
    · cases hnumber : number? cs with
      | none => simp [hnumber] at h
      | some r =>
        rw [hnumber, Option.getD_some] at h
        rw [h] at hnumber
        obtain ⟨p, -, hp⟩ := Option.map_eq_some_iff.1 hnumber
        exact numberAfter_ne_object hp

/-- An object starts with a brace. -/
theorem exists_brace_of_value {depth : Nat} {cs rest : List Char} {fields : Fields}
    (h : value depth cs = .ok (.object fields, rest)) : ∃ cs', cs = '{' :: cs' := by
  cases depth with
  | zero =>
    unfold value at h
    split at h
    · contradiction
    · contradiction
    · exact absurd h scalar_ne_object
  | succ depth =>
    unfold value at h
    split at h
    · split at h
      · simp at h
      · obtain ⟨vs, -, hvs⟩ := exists_of_map (f := Value.list) h
        contradiction
    · exact ⟨_, rfl⟩
    · exact absurd h scalar_ne_object

/-- What is read as an object is a plain text that starts with an opening brace. -/
theorem exists_writes_of_object {cs : List Char} {fields : Fields}
    (h : document cs = .ok (.object fields)) :
    ∃ ts, Derives .value (.openObject :: ts) ∧ Writes (.openObject :: ts) cs := by
  obtain ⟨rest, -, hvalue⟩ := exists_of_document h
  obtain ⟨cs', hbrace⟩ := exists_brace_of_value hvalue
  obtain ⟨ts, hts, hwrites⟩ := exists_writes_of_document h
  have hvalid := hts.valid
  obtain ⟨t, us, rfl, -⟩ := hts.exists_cons
  obtain ⟨body, last, hbody, -, rfl⟩ := id hwrites
  obtain ⟨tail, -, hskip⟩ := hbody.skipWhite_append (hvalid t (by simp))
  rw [hskip] at hbrace
  obtain rfl : t = .openObject := by
    cases t with
    | bare text =>
      have hbare := hvalid (.bare text) (by simp)
      obtain ⟨c, cs, rfl⟩ := List.exists_cons_of_ne_nil (BareText.ne_nil hbare)
      obtain ⟨rfl, -⟩ := List.cons.inj hbrace
      exact absurd (BareText.isBareChar hbare '\x7b' (by simp)) (by decide)
    | openObject => rfl
    | literal | openList | closeList | closeObject | colon | comma =>
      simp [Lexeme.text] at hbrace
  exact ⟨us, hts, hwrites⟩

/-! ## Keys -/

/-- Setting a key keeps the keys distinct. -/
theorem Fields.nodup_put {fields : Fields} (h : (fields.map Prod.fst).Nodup) (key : String)
    (value : Value) : ((Fields.put key value fields).map Prod.fst).Nodup := by
  rw [Fields.keys_put]
  split
  · exact h
  · next hkey =>
    rw [List.nodup_append]
    refine ⟨h, by simp, ?_⟩
    rintro k hk k' hk' rfl
    rw [List.mem_singleton.1 hk'] at hk
    exact hkey hk

theorem nodup_of_members {value : List Char → Read Value} {n : Nat} {fields fs : Fields}
    {cs rest : List Char} (hfields : (fields.map Prod.fst).Nodup)
    (h : members value n fields cs = .ok (fs, rest)) : (fs.map Prod.fst).Nodup := by
  induction n generalizing fields cs with
  | zero => contradiction
  | succ n ih =>
    rw [members] at h
    obtain ⟨p, after, -, hafter⟩ := exists_of_bind h
    have hput := Fields.nodup_put hfields p.1 p.2
    simp only at hafter
    split at hafter
    · obtain ⟨rfl, -⟩ := Prod.mk.inj (Except.ok.inj hafter)
      exact hput
    · exact ih hput hafter
    · contradiction

/-- The keys of an object that is read are distinct. -/
theorem nodup_of_document {cs : List Char} {fields : Fields}
    (h : document cs = .ok (.object fields)) : (fields.map Prod.fst).Nodup := by
  obtain ⟨rest, -, hvalue⟩ := exists_of_document h
  obtain ⟨cs', hbrace⟩ := exists_brace_of_value hvalue
  rw [hbrace] at hvalue
  generalize Limit.maxDepth = depth at hvalue
  cases depth with
  | zero => contradiction
  | succ depth =>
    simp only [value] at hvalue
    split at hvalue
    · obtain ⟨hfields, -⟩ := Prod.mk.inj (Except.ok.inj hvalue)
      rw [← Value.object.inj hfields]
      exact List.nodup_nil
    · obtain ⟨fs, hfs, hfields⟩ := exists_of_map (f := Value.object) hvalue
      have hnil : (([] : Fields).map Prod.fst).Nodup := List.nodup_nil
      rw [← Value.object.inj hfields]
      exact nodup_of_members hnil hfs

end FenceLint.Json
