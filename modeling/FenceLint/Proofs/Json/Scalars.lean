import FenceLint.Json.Reader
import FenceLint.Proofs.Json.Grammar

/-!
# Reading literals, numbers and words

A reader that meets a lexeme of the grammar takes it whole and leaves what follows, whatever that
is.  Only numbers have to know that no character follows that would make them longer
(`Delimited`).  What is read depends on the lexeme alone; it is a value, or a limit that the lexeme
is beyond.
-/

namespace FenceLint.Json

open Reader

/-- A reader came to this end: it gave a value and left `rest`, or it stopped at a limit. -/
def Ends {α : Type} (r : Read α) (outcome : Except Limit α) (rest : List Char) : Prop :=
  match outcome with
  | .ok v => r = .ok (v, rest)
  | .error l => ∃ place, r = .error ⟨.limit l, place⟩

namespace Ends

variable {α β : Type}

/-- A reader that goes on after another one. -/
theorem bind {r : Read α} {outcome : Except Limit α} {rest rest' : List Char}
    {next : α × List Char → Read β} {f : α → Except Limit β} (h : Ends r outcome rest)
    (hnext : ∀ v, Ends (next (v, rest)) (f v) rest') :
    Ends (r.bind next) (outcome.bind f) rest' := by
  cases outcome with
  | ok v =>
    have hr : r = .ok (v, rest) := h
    rw [hr]
    exact hnext v
  | error l =>
    obtain ⟨place, hr⟩ := h
    rw [hr]
    exact ⟨place, rfl⟩

/-- A reader whose value is changed. -/
theorem map {r : Read α} {outcome : Except Limit α} {rest : List Char} (f : α → β)
    (h : Ends r outcome rest) :
    Ends (r.map fun (v, rest) => (f v, rest)) (outcome.map f) rest := by
  cases outcome with
  | ok v =>
    have hr : r = .ok (v, rest) := h
    rw [hr]
    rfl
  | error l =>
    obtain ⟨place, hr⟩ := h
    rw [hr]
    exact ⟨place, rfl⟩

end Ends

/-- No character follows that could belong to a number. -/
def Delimited (rest : List Char) : Prop := ∀ c ∈ rest.head?, isBareChar c = false

/-! ## Literals -/

/-- The digits of an escape have a value. -/
theorem exists_hexNumber? {cs : List Char} (h : ∀ c ∈ cs, c ∈ hexDigits) :
    ∃ n, hexNumber? cs = some n := by
  have hdigits : hexDigits.all (fun c => (hexValue? c).isSome) = true := by decide +kernel
  have hfold : ∀ m, ∃ n, cs.foldlM (fun n c => (hexValue? c).map (16 * n + ·)) m = some n := by
    induction cs with
    | nil => exact fun m => ⟨m, rfl⟩
    | cons c cs ih =>
      intro m
      obtain ⟨hc, hcs⟩ := List.forall_mem_cons.1 h
      obtain ⟨d, hd⟩ := Option.isSome_iff_exists.1 (List.all_eq_true.1 hdigits c hc)
      obtain ⟨n, hn⟩ := ih hcs (16 * m + d)
      exact ⟨n, by simpa [List.foldlM_cons, hd] using hn⟩
  exact hfold 0

/-- A literal is read up to its closing quote. -/
theorem LiteralBody.pieces_append {body : List Char} (h : LiteralBody body) :
    ∃ ps, ∀ start rest, pieces start (body ++ '"' :: rest) = .ok (ps, rest) := by
  induction h with
  | nil => exact ⟨[], fun _ _ => by simp [pieces]⟩
  | @plain c cs hquote hescape hcontrol _ ih =>
    obtain ⟨ps, ih⟩ := ih
    refine ⟨.char c :: ps, fun start rest => ?_⟩
    have hcontrol' : ¬ c.toNat < 0x20 := by omega
    simp [pieces, hquote, hescape, hcontrol', ih, prepend, Except.map]
  | @escape c cs hc _ ih =>
    obtain ⟨ps, ih⟩ := ih
    have hletters : ['"', '\\', '/', 'b', 'f', 'n', 'r', 't'].all
        (fun d => d != 'u' && (simpleEscape? d).isSome) = true := by decide
    obtain ⟨hu, hsome⟩ : c ≠ 'u' ∧ (simpleEscape? c).isSome = true := by
      simpa using List.all_eq_true.1 hletters c hc
    obtain ⟨e, he⟩ := Option.isSome_iff_exists.1 hsome
    refine ⟨.char e :: ps, fun start rest => ?_⟩
    simp [pieces, hu, he, ih, prepend, Except.map]
  | @unicode a b c d cs hhex _ ih =>
    obtain ⟨ps, ih⟩ := ih
    obtain ⟨n, hn⟩ := exists_hexNumber? hhex
    refine ⟨.unit n :: ps, fun start rest => ?_⟩
    -- The closing quote stands after the digits, so that the escape is not the end of the text.
    obtain ⟨x, xs, hx⟩ : ∃ x xs, cs ++ '"' :: rest = x :: xs :=
      List.exists_cons_of_ne_nil (by simp)
    have ih := ih start rest
    rw [hx] at ih
    simp [pieces, hn, hx, ih, prepend, Except.map]

theorem LiteralBody.string_append {body : List Char} (h : LiteralBody body) :
    ∃ s, ∀ start rest, string start (body ++ '"' :: rest) = .ok (s, rest) := by
  obtain ⟨ps, hps⟩ := h.pieces_append
  exact ⟨String.ofList (joinPieces ps), fun start rest => by simp [string, hps, Except.map]⟩

/-! ## Numbers -/

/-- The digits before the point: a zero alone, or digits that do not start with one. -/
def IsWhole (cs : List Char) : Prop := cs = ['0'] ∨ Digits cs ∧ cs.head? ≠ some '0'

/-- A point with the digits after it. -/
def IsFraction (cs : List Char) : Prop := ∃ ds, Digits ds ∧ cs = '.' :: ds

/-- An exponent with its sign. -/
def IsExponent (cs : List Char) : Prop :=
  ∃ e s ds, (e = 'e' ∨ e = 'E') ∧ (s = [] ∨ s = ['+'] ∨ s = ['-']) ∧ Digits ds ∧
    cs = e :: (s ++ ds)

/-- No digit follows. -/
def NoDigit (rest : List Char) : Prop := ∀ c ∈ rest.head?, c.isDigit = false

theorem Delimited.ne {c : Char} {rest : List Char} (h : Delimited rest) (hc : isBareChar c = true) :
    ∀ d ∈ rest.head?, d ≠ c := fun d hd => (ne_of_isBareChar hc (h d hd)).symm

theorem Delimited.noDigit {rest : List Char} (h : Delimited rest) : NoDigit rest := by
  intro c hc
  refine Bool.eq_false_iff.2 fun hdigit => ?_
  have hbare := isBareChar_of_isDigit hdigit
  rw [h c hc] at hbare
  contradiction

/-- A run of digits ends where no digit follows. -/
theorem span_digits {ds rest : List Char} (hds : ∀ c ∈ ds, c.isDigit = true)
    (hrest : NoDigit rest) :
    (ds ++ rest).takeWhile Char.isDigit = ds ∧ (ds ++ rest).dropWhile Char.isDigit = rest := by
  rw [List.takeWhile_append_of_pos hds, List.dropWhile_append_of_pos hds]
  cases rest with
  | nil => simp
  | cons c rest => simp [hrest c rfl]

theorem wholePart?_append {whole rest : List Char} (hwhole : IsWhole whole)
    (hrest : NoDigit rest) : wholePart? (whole ++ rest) = some (whole, rest) := by
  rcases hwhole with rfl | ⟨hwhole, hzero⟩
  · rfl
  · obtain ⟨htake, hdrop⟩ := span_digits hwhole.digit hrest
    obtain ⟨c, cs, rfl⟩ := List.exists_cons_of_ne_nil hwhole.ne_nil
    have hc : c ≠ '0' := by simpa using hzero
    have hdigit : c.isDigit = true := hwhole.digit c (by simp)
    rw [List.cons_append] at htake hdrop ⊢
    simp only [wholePart?, hdigit, if_true, htake, hdrop]

theorem fraction?_eq_none {rest : List Char} (h : ∀ c ∈ rest.head?, c ≠ '.') :
    fraction? rest = none := by
  cases rest with
  | nil => rfl
  | cons c rest =>
    have hc : c ≠ '.' := h c rfl
    simp [fraction?, hc]

theorem fraction?_append {ds rest : List Char} (hds : Digits ds) (hrest : NoDigit rest) :
    fraction? ('.' :: (ds ++ rest)) = some (ds, rest) := by
  obtain ⟨htake, hdrop⟩ := span_digits hds.digit hrest
  simp [fraction?, htake, hdrop, hds.ne_nil]

theorem exponent?_eq_none {rest : List Char} (h : ∀ c ∈ rest.head?, c ≠ 'e' ∧ c ≠ 'E') :
    exponent? rest = none := by
  cases rest with
  | nil => rfl
  | cons c rest =>
    obtain ⟨hlower, hupper⟩ := h c rfl
    simp [exponent?, hlower, hupper]

theorem exponent?_append {e : Char} {sign ds : List Char} (he : e = 'e' ∨ e = 'E')
    (hsign : sign = [] ∨ sign = ['+'] ∨ sign = ['-']) (hds : Digits ds) :
    ∃ n, ∀ rest, NoDigit rest → exponent? (e :: (sign ++ (ds ++ rest))) = some (n, rest) := by
  have he' : (e == 'e' || e == 'E') = true := by
    rcases he with rfl | rfl <;> rfl
  rcases hsign with rfl | rfl | rfl
  · refine ⟨Text.digitsValue ds, fun rest hrest => ?_⟩
    obtain ⟨htake, hdrop⟩ := span_digits hds.digit hrest
    obtain ⟨c, cs, rfl⟩ := List.exists_cons_of_ne_nil hds.ne_nil
    have hdigit : c.isDigit = true := hds.digit c (by simp)
    have hminus : c ≠ '-' := by
      rintro rfl
      contradiction
    have hplus : c ≠ '+' := by
      rintro rfl
      contradiction
    rw [List.cons_append] at htake hdrop
    simp [exponent?, he', hminus, hplus, htake, hdrop]
  · refine ⟨Text.digitsValue ds, fun rest hrest => ?_⟩
    obtain ⟨htake, hdrop⟩ := span_digits hds.digit hrest
    simp [exponent?, he', htake, hdrop, hds.ne_nil]
  · refine ⟨-(Text.digitsValue ds : Int), fun rest hrest => ?_⟩
    obtain ⟨htake, hdrop⟩ := span_digits hds.digit hrest
    simp [exponent?, he', htake, hdrop, hds.ne_nil]

/-- Without a point or an exponent a number is whole. -/
theorem numberAfter_eq_wholeNumber (negative : Bool) (whole : List Char) {rest : List Char}
    (hrest : Delimited rest) :
    numberAfter negative whole rest = wholeNumber negative whole rest := by
  have hfraction : fraction? rest = none := fraction?_eq_none (hrest.ne (by decide))
  have hexponent : exponent? rest = none :=
    exponent?_eq_none fun c hc => ⟨hrest.ne (by decide) c hc, hrest.ne (by decide) c hc⟩
  simp [numberAfter, hfraction, hexponent]

/-- A number that is whole: only too many digits can stop the reader. -/
theorem numberAfter_whole (negative : Bool) (whole : List Char) :
    ∃ outcome, (whole.length ≤ Text.maxDigits → ∃ v, outcome = .ok v) ∧
      ∀ rest, Delimited rest → Ends (numberAfter negative whole rest) outcome rest := by
  by_cases hlong : Text.maxDigits < whole.length
  · refine ⟨.error (.digits whole.length), fun h => absurd h (by omega), fun rest hrest => ?_⟩
    rw [numberAfter_eq_wholeNumber _ _ hrest, wholeNumber, if_pos hlong]
    exact ⟨_, rfl⟩
  · let n : Int := Text.digitsValue whole
    refine ⟨.ok (.int (if negative then -n else n)), fun _ => ⟨_, rfl⟩, fun rest hrest => ?_⟩
    rw [numberAfter_eq_wholeNumber _ _ hrest, wholeNumber, if_neg hlong]
    rfl

/-- A number with a point or an exponent is always read. -/
theorem numberAfter_scaled (negative : Bool) (whole : List Char) {fraction exponent : List Char}
    (hfraction : fraction = [] ∨ IsFraction fraction)
    (hexponent : exponent = [] ∨ IsExponent exponent) (hscaled : fraction ++ exponent ≠ []) :
    ∃ v, ∀ rest, Delimited rest →
      numberAfter negative whole (fraction ++ (exponent ++ rest)) = .ok (v, rest) := by
  have hnone : ∀ rest, Delimited rest → exponent? rest = none := fun rest hrest =>
    exponent?_eq_none fun c hc => ⟨hrest.ne (by decide) c hc, hrest.ne (by decide) c hc⟩
  rcases hexponent with rfl | ⟨e, s, es, he, hs, hes, rfl⟩
  · rcases hfraction with rfl | ⟨ds, hds, rfl⟩
    · exact absurd rfl hscaled
    · refine ⟨.float (.ofDecimal negative (Text.digitsValue (whole ++ ds)) (0 - ds.length)),
        fun rest hrest => ?_⟩
      rw [List.nil_append, List.cons_append, numberAfter, fraction?_append hds hrest.noDigit]
      simp only [Option.getD_some, hnone rest hrest, Option.getD_none]
  · obtain ⟨n, hn⟩ := exponent?_append he hs hes
    rcases hfraction with rfl | ⟨ds, hds, rfl⟩
    · refine ⟨.float (.ofDecimal negative (Text.digitsValue (whole ++ [])) (n - 0)),
        fun rest hrest => ?_⟩
      -- Without a point the exponent follows at once, which is not taken for a fraction.
      have hpoint : fraction? (e :: (s ++ (es ++ rest))) = none := by
        refine fraction?_eq_none fun c hc => ?_
        obtain rfl : e = c := by simpa using hc
        rcases he with rfl | rfl <;> decide
      rw [List.nil_append, List.cons_append, List.append_assoc, numberAfter, hpoint]
      simp only [Option.getD_none, hn rest hrest.noDigit, Option.getD_some]
      rfl
    · refine ⟨.float (.ofDecimal negative (Text.digitsValue (whole ++ ds)) (n - ds.length)),
        fun rest hrest => ?_⟩
      have hdigit : NoDigit (e :: (s ++ (es ++ rest))) := by
        intro c hc
        obtain rfl : e = c := by simpa using hc
        rcases he with rfl | rfl <;> decide
      rw [List.cons_append, List.cons_append, List.append_assoc, numberAfter,
        fraction?_append hds hdigit]
      simp only [Option.getD_some, hn rest hrest.noDigit]

/-- The digits before the point start with a digit. -/
theorem IsWhole.exists_digit {whole : List Char} (h : IsWhole whole) :
    ∃ c cs, whole = c :: cs ∧ c.isDigit = true := by
  rcases h with rfl | ⟨hwhole, -⟩
  · exact ⟨'0', [], rfl, by decide⟩
  · obtain ⟨c, cs, rfl⟩ := List.exists_cons_of_ne_nil hwhole.ne_nil
    exact ⟨c, cs, rfl, hwhole.digit c (by simp)⟩

/-- The sign and the digits before the point are read first. -/
theorem number?_append {sign whole rest : List Char} (hsign : sign = [] ∨ sign = ['-'])
    (hwhole : IsWhole whole) (hrest : NoDigit rest) :
    number? (sign ++ (whole ++ rest)) = some (numberAfter (sign == ['-']) whole rest) := by
  have hpart := wholePart?_append hwhole hrest
  rcases hsign with rfl | rfl
  · obtain ⟨c, cs, rfl, hc⟩ := hwhole.exists_digit
    have hminus : c ≠ '-' := by
      rintro rfl
      contradiction
    unfold number?
    split
    rename_i hmatch
    split at hmatch
    · simp_all
    · cases hmatch
      rw [List.nil_append, hpart]
      rfl
  · simp [number?, hpart]

/-- A number is read whole. -/
theorem NumberText.number?_append {text : List Char} (h : NumberText text) :
    ∃ outcome, (text.countP Char.isDigit ≤ Text.maxDigits → ∃ v, outcome = .ok v) ∧
      ∀ rest, Delimited rest → ∃ r, number? (text ++ rest) = some r ∧ Ends r outcome rest := by
  obtain @⟨sign, whole, fraction, exponent, hsign, hwhole, hfraction, hexponent⟩ := h
  have hdigits : ∀ c ∈ whole, c.isDigit = true := by
    rcases hwhole with rfl | ⟨hwhole, -⟩
    · simp
    · exact hwhole.digit
  have hnumber : ∀ rest, Delimited rest →
      number? ((sign ++ (whole ++ (fraction ++ exponent))) ++ rest) =
        some (numberAfter (sign == ['-']) whole (fraction ++ (exponent ++ rest))) := by
    intro rest hrest
    -- A point, an exponent or the end of the number stops the digits before the point.
    have hstop : NoDigit (fraction ++ (exponent ++ rest)) := by
      rcases hfraction with rfl | ⟨ds, -, rfl⟩
      · rcases hexponent with rfl | ⟨e, s, ds, he, -, -, rfl⟩
        · exact hrest.noDigit
        · rcases he with rfl | rfl <;> simp [NoDigit]
      · simp [NoDigit]
    simp only [List.append_assoc]
    exact Json.number?_append hsign hwhole hstop
  by_cases hscaled : fraction ++ exponent = []
  · obtain ⟨rfl, rfl⟩ := List.append_eq_nil_iff.1 hscaled
    obtain ⟨outcome, hok, hends⟩ := numberAfter_whole (sign == ['-']) whole
    refine ⟨outcome, fun hshort => hok ?_, fun rest hrest => ?_⟩
    · have hcount : whole.countP Char.isDigit = whole.length := List.countP_eq_length.2 hdigits
      simp only [List.countP_append, hcount] at hshort
      omega
    · exact ⟨_, hnumber rest hrest, hends rest hrest⟩
  · obtain ⟨v, hv⟩ := numberAfter_scaled (sign == ['-']) whole hfraction hexponent hscaled
    exact ⟨.ok v, fun _ => ⟨v, rfl⟩, fun rest hrest => ⟨_, hnumber rest hrest, hv rest hrest⟩⟩

/-! ## Words -/

/-- No word is the start of another one. -/
theorem words_apart : words.Pairwise fun p q =>
    ¬ p.1.toList <+: q.1.toList ∧ ¬ q.1.toList <+: p.1.toList := by
  decide +kernel

/-- A word is read as the value it stands for. -/
theorem word?_append {w : String} {v : Value} (hmem : (w, v) ∈ words) (rest : List Char) :
    word? (w.toList ++ rest) = some (v, rest) := by
  obtain ⟨before, after, hwords⟩ := List.append_of_mem hmem
  have hapart := words_apart
  rw [hwords, List.pairwise_append] at hapart
  rw [word?, List.findSome?_eq_some_iff]
  refine ⟨before, (w, v), after, hwords, ?_, fun p hp => ?_⟩
  · simp [← String.length_toList]
  · -- A word before this one would have to be the start of it, or the other way round.
    obtain ⟨hne, hne'⟩ := hapart.2.2 p hp (w, v) (by simp)
    refine if_neg fun hstart => ?_
    rcases List.prefix_or_prefix_of_prefix (List.isPrefixOf_iff_prefix.1 hstart)
      (List.prefix_append w.toList rest) with hin | hin
    · exact hne hin
    · exact hne' hin

/-- The words of the grammar are those that the reader knows. -/
theorem exists_mem_words {w : String} (h : w ∈ wordTexts) : ∃ v, (w, v) ∈ words := by
  have hmap : wordTexts = words.map Prod.fst := rfl
  rw [hmap] at h
  obtain ⟨⟨w, v⟩, hmem, rfl⟩ := List.mem_map.1 h
  exact ⟨v, hmem⟩

/-- A word starts with a letter, or with a minus and a letter. -/
theorem exists_start_of_mem_words : ∀ p ∈ words, ∃ a b r, p.1.toList = a :: b :: r ∧
    a.isDigit = false ∧ (a ≠ '-' ∨ b.isDigit = false) := by
  simp only [words, List.forall_mem_cons]
  refine ⟨⟨'n', 'u', ['l', 'l'], ?_⟩, ⟨'t', 'r', ['u', 'e'], ?_⟩, ⟨'f', 'a', ['l', 's', 'e'], ?_⟩,
    ⟨'N', 'a', ['N'], ?_⟩, ⟨'I', 'n', ['f', 'i', 'n', 'i', 't', 'y'], ?_⟩,
    ⟨'-', 'I', ['n', 'f', 'i', 'n', 'i', 't', 'y'], ?_⟩, by simp⟩
  all_goals decide +kernel

/-- No word starts like a number. -/
theorem NumberText.word?_append {text : List Char} (h : NumberText text) (rest : List Char) :
    word? (text ++ rest) = none := by
  obtain @⟨sign, whole, fraction, exponent, hsign, hwhole, -, -⟩ := h
  obtain ⟨c, cs, rfl, hc⟩ := IsWhole.exists_digit hwhole
  rw [word?, List.findSome?_eq_none_iff]
  intro p hp
  refine if_neg fun hstart => ?_
  obtain ⟨a, b, r, hp, ha, hb⟩ := exists_start_of_mem_words p hp
  rw [hp] at hstart
  rcases hsign with rfl | rfl
  · obtain ⟨rfl, -⟩ : a = c ∧ _ := by simpa using hstart
    rw [hc] at ha
    contradiction
  · obtain ⟨rfl, rfl, -⟩ : a = '-' ∧ b = c ∧ _ := by simpa using hstart
    rcases hb with hb | hb
    · exact hb rfl
    · rw [hc] at hb
      contradiction

/-! ## Scalars -/

/-- Without a quote in front, a word is looked for first. -/
theorem scalar_of_word {cs : List Char} {r : Value × List Char} (hquote : cs.head? ≠ some '"')
    (h : word? cs = some r) : scalar cs = .ok r := by
  unfold scalar
  split
  · exact absurd rfl hquote
  · rw [h]

/-- If it is no word, it is a number. -/
theorem scalar_of_number {cs : List Char} {r : Read Value} (hquote : cs.head? ≠ some '"')
    (hword : word? cs = none) (h : number? cs = some r) : scalar cs = r := by
  unfold scalar
  split
  · exact absurd rfl hquote
  · rw [hword, h, Option.getD_some]

theorem BareText.head?_ne_quote {text : List Char} (h : BareText text) (rest : List Char) :
    (text ++ rest).head? ≠ some '"' := by
  obtain ⟨c, cs, rfl⟩ := List.exists_cons_of_ne_nil h.ne_nil
  have hc : c ≠ '"' := ne_of_isBareChar (h.isBareChar c (by simp)) (by decide)
  simpa using hc

/-- A number or word is read whole, unless the number is beyond a limit. -/
theorem BareText.scalar_append {text : List Char} (h : BareText text) :
    ∃ outcome, (text.countP Char.isDigit ≤ Text.maxDigits → ∃ v, outcome = .ok v) ∧
      ∀ rest, Delimited rest → Ends (scalar (text ++ rest)) outcome rest := by
  have hquote := h.head?_ne_quote
  cases h with
  | number h =>
    obtain ⟨outcome, hok, hends⟩ := h.number?_append
    refine ⟨outcome, hok, fun rest hrest => ?_⟩
    obtain ⟨r, hr, hr'⟩ := hends rest hrest
    rw [scalar_of_number (hquote rest) (h.word?_append rest) hr]
    exact hr'
  | word h =>
    obtain ⟨v, hv⟩ := exists_mem_words h
    exact ⟨.ok v, fun _ => ⟨v, rfl⟩, fun rest _ =>
      scalar_of_word (hquote rest) (word?_append hv rest)⟩

end FenceLint.Json
