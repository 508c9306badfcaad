import FenceLint.Proofs.Json.Scalars

/-!
# Reading values

The reader takes a phrase of the grammar whole, however the white space between its lexemes is
spread, and what it reads depends on the lexemes alone.  There is one lemma for each form of a
phrase, which says how the reader ends on it if it ends so on its parts.  The invariant
`Phrase.Reads` says that there is such an end; it is carried through the grammar in `Derives.reads`.

A phrase within the limits (`Fits`) has a value; beyond them the reader stops, at the same limit for
every spelling of the phrase.
-/

namespace FenceLint.Json

open Reader

/-! ## Limits -/

/-- The lexeme opens a list or an object. -/
def Lexeme.isOpening : Lexeme → Bool
  | openList | openObject => true
  | _ => false

theorem Lexeme.not_isClosing_of_isOpening {t : Lexeme} (h : t.isOpening = true) :
    t.isClosing = false := by
  cases t <;> first | rfl | contradiction

/-- Lists and objects nest at most `depth` levels deep, and no number has too many digits. -/
structure Fits (depth : Nat) (ts : List Lexeme) : Prop where
  /-- At every place, at most `depth` brackets are open. -/
  nesting : ∀ us, us <+: ts → us.countP Lexeme.isOpening ≤ us.countP Lexeme.isClosing + depth
  /-- Numbers are short enough to be read. -/
  digits : ∀ text, Lexeme.bare text ∈ ts → text.countP Char.isDigit ≤ Text.maxDigits

/-- Brackets that are opened are closed. -/
theorem Derives.balanced {p : Phrase} {ts : List Lexeme} (h : Derives p ts) :
    ts.countP Lexeme.isOpening = ts.countP Lexeme.isClosing := by
  induction h with
  | literal | bare | emptyList | emptyObject => rfl
  | list _ ih | object _ ih => simp [List.countP_cons, Lexeme.isOpening, Lexeme.isClosing, ih]
  | lastItem _ ih => exact ih
  | item _ _ ih ih' => simp [Lexeme.isOpening, Lexeme.isClosing, ih, ih']
  | lastMember _ _ ih => simp [Lexeme.isOpening, Lexeme.isClosing, ih]
  | member _ _ _ ih ih' => simp [Lexeme.isOpening, Lexeme.isClosing, ih, ih']

namespace Fits

variable {depth : Nat} {t : Lexeme} {ts us : List Lexeme}

theorem left (h : Fits depth (ts ++ us)) : Fits depth ts where
  nesting vs hvs := h.nesting vs (hvs.trans (List.prefix_append ts us))
  digits text htext := h.digits text (List.mem_append_left us htext)

/-- After brackets that are closed again, as many may be opened as before. -/
theorem right (h : Fits depth (ts ++ us))
    (hts : ts.countP Lexeme.isOpening = ts.countP Lexeme.isClosing) : Fits depth us where
  nesting vs hvs := by
    have hnest := h.nesting (ts ++ vs) ((List.prefix_append_right_inj ts).2 hvs)
    rw [List.countP_append, List.countP_append] at hnest
    omega
  digits text htext := h.digits text (List.mem_append_right ts htext)

/-- A lexeme that is no bracket counts for nothing. -/
theorem tail (h : Fits depth (t :: ts)) (hopening : t.isOpening = false)
    (hclosing : t.isClosing = false) : Fits depth ts := by
  have hcons : Fits depth ([t] ++ ts) := h
  exact hcons.right (by simp [hopening, hclosing])

/-- Inside a bracket there is one level less. -/
theorem inside (h : Fits (depth + 1) (t :: ts)) (ht : t.isOpening = true) : Fits depth ts where
  nesting us hus := by
    have hnest := h.nesting (t :: us) ((List.prefix_cons_inj t).2 hus)
    have hclosing := Lexeme.not_isClosing_of_isOpening ht
    rw [List.countP_cons, List.countP_cons, if_pos ht, if_neg (by simp [hclosing])] at hnest
    omega
  digits text htext := h.digits text (List.mem_cons_of_mem t htext)

theorem depth_pos (h : Fits depth (t :: ts)) (ht : t.isOpening = true) : 0 < depth := by
  have hnest := h.nesting [t] ((List.prefix_cons_inj t).2 List.nil_prefix)
  have hclosing := Lexeme.not_isClosing_of_isOpening ht
  simp [ht, hclosing] at hnest
  omega

end Fits

/-! ## White space -/

/-- The reader skips white space and nothing else. -/
theorem isWhite_iff {c : Char} : isWhite c = true ↔ c ∈ whiteChars := by
  simp [isWhite, whiteChars, or_assoc]

theorem White.skipWhite_append {w : List Char} (hw : White w) (rest : List Char) :
    skipWhite (w ++ rest) = skipWhite rest :=
  List.dropWhile_append_of_pos fun c hc => isWhite_iff.2 (hw c hc)

/-- White space ends a number, and so does what stands after it if it is no part of one. -/
theorem White.delimited_append {w rest : List Char} (hw : White w) (hrest : Delimited rest) :
    Delimited (w ++ rest) := by
  intro c hc
  cases w with
  | nil => exact hrest c hc
  | cons d w =>
    obtain rfl : d = c := by simpa using hc
    refine Bool.eq_false_iff.2 fun hbare => ?_
    have hblank := isBlank_of_mem_whiteChars (hw d (by simp))
    rw [not_isBlank_of_isBareChar hbare] at hblank
    contradiction

theorem White.delimited {w : List Char} (hw : White w) : Delimited w := by
  have hnil : Delimited [] := by simp [Delimited]
  simpa using hw.delimited_append hnil

/-- White space and a mark of punctuation end a value, and the reader finds the mark. -/
theorem White.before_mark {w : List Char} (hw : White w) {c : Char} (hc : c ∈ [',', ']', '}'])
    (rest : List Char) : Delimited (w ++ c :: rest) ∧ skipWhite (w ++ c :: rest) = c :: rest := by
  have hmark : isBareChar c = false ∧ isWhite c = false := by
    simp only [List.mem_cons, List.not_mem_nil, or_false] at hc
    rcases hc with rfl | rfl | rfl <;> decide
  constructor
  · refine hw.delimited_append fun d hd => ?_
    obtain rfl : c = d := by simpa using hd
    exact hmark.1
  · rw [hw.skipWhite_append, skipWhite, List.dropWhile_cons_of_neg (by simp [hmark.2])]

/-- No lexeme starts with white space. -/
theorem Lexeme.Valid.skipWhite_append {t : Lexeme} (ht : t.Valid) (rest : List Char) :
    skipWhite (t.text ++ rest) = t.text ++ rest := by
  obtain ⟨c, cs, htext, hblank, -⟩ := ht.exists_text_eq
  have hwhite : isWhite c = false := by
    refine Bool.eq_false_iff.2 fun hwhite => ?_
    rw [isBlank_of_mem_whiteChars (isWhite_iff.1 hwhite)] at hblank
    contradiction
  simp [skipWhite, htext, hwhite]

namespace Spaced

variable {t : Lexeme} {ts us : List Lexeme} {text : List Char}

/-- The reader finds the first lexeme of a text after the white space. -/
theorem skipWhite_append (h : Spaced (t :: ts) text) (ht : t.Valid) :
    ∃ tail, Spaced ts tail ∧ ∀ rest, skipWhite (text ++ rest) = t.text ++ (tail ++ rest) := by
  cases h with
  | @cons t ts w tail hw h =>
    refine ⟨tail, h, fun rest => ?_⟩
    rw [List.append_assoc, hw.skipWhite_append, List.append_assoc, ht.skipWhite_append]

/-- The text of two sequences is cut between them. -/
theorem of_append (h : Spaced (ts ++ us) text) :
    ∃ first second, text = first ++ second ∧ Spaced ts first ∧ Spaced us second := by
  induction ts generalizing text with
  | nil => exact ⟨[], text, rfl, .nil, h⟩
  | cons t ts ih =>
    cases h with
    | @cons _ _ w tail hw h =>
      obtain ⟨first, second, rfl, hfirst, hsecond⟩ := ih h
      exact ⟨_, second, by simp only [List.append_assoc], .cons hw hfirst, hsecond⟩

/-- The text of a sequence is cut before its last lexeme. -/
theorem of_append_singleton (h : Spaced (ts ++ [t]) text) :
    ∃ first w, Spaced ts first ∧ White w ∧
      ∀ rest, text ++ rest = first ++ (w ++ (t.text ++ rest)) := by
  obtain ⟨first, second, rfl, hfirst, hsecond⟩ := h.of_append
  cases hsecond with
  | @cons _ _ w tail hw htail =>
    cases htail
    exact ⟨first, w, hfirst, hw, fun rest => by simp only [List.append_assoc, List.nil_append]⟩

/-- A text has at least one character for each lexeme, also without the white space in front. -/
theorem length_le (h : Spaced ts text) (hts : ∀ t ∈ ts, t.Valid) (rest : List Char) :
    ts.length ≤ (skipWhite (text ++ rest)).length := by
  have htext : ∀ {ts : List Lexeme} {text : List Char}, Spaced ts text → (∀ t ∈ ts, t.Valid) →
      ts.length ≤ text.length := by
    intro ts text h hts
    induction h with
    | nil => simp
    | @cons t ts w text hw h ih =>
      obtain ⟨ht, htail⟩ := List.forall_mem_cons.1 hts
      obtain ⟨c, cs, htext, -, -⟩ := ht.exists_text_eq
      have hlen := ih htail
      simp only [List.length_cons, List.length_append, htext]
      omega
  cases ts with
  | nil => simp
  | cons t ts =>
    obtain ⟨ht, htail⟩ := List.forall_mem_cons.1 hts
    obtain ⟨tail, hspaced, hskip⟩ := h.skipWhite_append ht
    obtain ⟨c, cs, hc, -, -⟩ := ht.exists_text_eq
    have hlen := htext hspaced htail
    rw [hskip, hc]
    simp only [List.length_cons, List.length_append]
    omega

/-- Texts of two sequences make a text of both. -/
theorem append {text' : List Char} (h : Spaced ts text) (h' : Spaced us text') :
    Spaced (ts ++ us) (text ++ text') := by
  induction h with
  | nil => exact h'
  | cons hw _ ih =>
    rw [List.append_assoc, List.append_assoc]
    exact .cons hw ih

/-- White space may be put in front. -/
theorem white_append {w : List Char} (hw : White w) (h : Spaced (t :: ts) text) :
    Spaced (t :: ts) (w ++ text) := by
  cases h with
  | cons hw' h =>
    rw [← List.append_assoc]
    exact .cons (List.forall_mem_append.2 ⟨hw, hw'⟩) h

/-- A lexeme may be put in front, without white space. -/
theorem lexeme (t : Lexeme) (h : Spaced ts text) : Spaced (t :: ts) (t.text ++ text) :=
  .cons (w := []) (by simp [White]) h

theorem single (t : Lexeme) : Spaced [t] t.text := by
  simpa using Spaced.nil.lexeme t

end Spaced

/-! ## Phrases -/

/-- How the reader ends on a value, however it is spaced.  The text after the value must not make a
number longer. -/
def ReadsValue (depth : Nat) (ts : List Lexeme) (outcome : Except Limit Value) : Prop :=
  ∀ text rest, Spaced ts text → Delimited rest →
    Ends (Reader.value depth (skipWhite (text ++ rest))) outcome rest

/-- How the reader ends on the items of a list, read up to the closing bracket with fuel for every
lexeme. -/
def ReadsItems (depth : Nat) (ts : List Lexeme) (outcome : Except Limit (List Value)) : Prop :=
  ∀ n text w rest, ts.length ≤ n → Spaced ts text → White w →
    Ends (Reader.items (Reader.value depth) n (skipWhite (text ++ (w ++ ']' :: rest)))) outcome rest

/-- How the reader ends on a key with its value. -/
def ReadsMember (depth : Nat) (ts : List Lexeme) (outcome : Except Limit (String × Value)) : Prop :=
  ∀ text rest, Spaced ts text → Delimited rest →
    Ends (Reader.member (Reader.value depth) (skipWhite (text ++ rest))) outcome rest

/-- How the reader ends on the members of an object, read up to the closing brace with fuel for
every lexeme, if the given fields are there already. -/
def ReadsMembers (depth : Nat) (fields : Fields) (ts : List Lexeme)
    (outcome : Except Limit Fields) : Prop :=
  ∀ n text w rest, ts.length ≤ n → Spaced ts text → White w →
    Ends (Reader.members (Reader.value depth) n fields (skipWhite (text ++ (w ++ '}' :: rest))))
      outcome rest

/-- The reader takes the phrase whole: it has one end on it, which is a value within the limits. -/
def Phrase.Reads : Phrase → List Lexeme → Prop
  | value, ts => ∀ depth, ∃ outcome, (Fits depth ts → ∃ v, outcome = .ok v) ∧
      ReadsValue depth ts outcome
  | items, ts => ∀ depth, ∃ outcome, (Fits depth ts → ∃ vs, outcome = .ok vs) ∧
      ReadsItems depth ts outcome
  | members, ts => ∀ depth fields, ∃ outcome, (Fits depth ts → ∃ fs, outcome = .ok fs) ∧
      ReadsMembers depth fields ts outcome

/-- Outside of brackets and quotes, a value is a scalar. -/
theorem value_eq_scalar {c : Char} (hlist : c ≠ '[') (hobject : c ≠ '{') (depth : Nat)
    (cs : List Char) : value depth (c :: cs) = scalar (c :: cs) := by
  cases depth with
  | zero => simp [value, hlist, hobject]
  | succ depth => simp [value, hlist, hobject]

/-- A literal is read as the text that its characters stand for. -/
theorem LiteralBody.readsValue {body : List Char} {s : String} (h : LiteralBody body)
    (hs : ∀ start rest, string start (body ++ '"' :: rest) = .ok (s, rest)) (depth : Nat) :
    ReadsValue depth [.literal body] (.ok (.str s)) := by
  intro text rest htext _
  obtain ⟨tail, htail, hskip⟩ := htext.skipWhite_append h
  cases htail
  rw [hskip, Lexeme.text, List.cons_append, List.append_assoc, List.cons_append,
    value_eq_scalar (by decide) (by decide)]
  simp [Ends, scalar, hs, Except.map]

/-- A number or word is read as the scalar it is. -/
theorem BareText.readsValue {text : List Char} {outcome : Except Limit Value} (h : BareText text)
    (hends : ∀ rest, Delimited rest → Ends (scalar (text ++ rest)) outcome rest) (depth : Nat) :
    ReadsValue depth [.bare text] outcome := by
  intro whole rest hwhole hrest
  obtain ⟨tail, htail, hskip⟩ := hwhole.skipWhite_append h
  cases htail
  rw [hskip, Lexeme.text, List.nil_append]
  obtain ⟨c, cs, rfl⟩ := List.exists_cons_of_ne_nil h.ne_nil
  have hbare : Json.isBareChar c = true := h.isBareChar c (by simp)
  have hscalar := value_eq_scalar (ne_of_isBareChar hbare (by decide))
    (ne_of_isBareChar hbare (by decide)) depth (cs ++ rest)
  rw [List.cons_append, hscalar]
  exact hends rest hrest

/-- A value that starts with a bracket is read from behind the bracket on. -/
theorem readsValue_of_opening {t : Lexeme} {ts : List Lexeme} {outcome : Except Limit Value}
    {depth : Nat} (ht : t.isOpening = true)
    (h : ∀ text rest, Spaced ts text →
      Ends (value depth (t.text ++ (text ++ rest))) outcome rest) :
    ReadsValue depth (t :: ts) outcome := by
  have hvalid : t.Valid := by
    cases t <;> trivial
  intro text rest htext _
  obtain ⟨tail, htail, hskip⟩ := htext.skipWhite_append hvalid
  rw [hskip]
  exact h tail rest htail

/-- A value that starts with a bracket is not read below the deepest level. -/
theorem reads_of_succ {t : Lexeme} {ts : List Lexeme} (ht : t.isOpening = true)
    (hlimit : ∃ l, ∀ rest, ∃ place, value 0 (t.text ++ rest) = .error ⟨.limit l, place⟩)
    (h : ∀ depth, ∃ outcome, (Fits (depth + 1) (t :: ts) → ∃ v, outcome = .ok v) ∧
      ReadsValue (depth + 1) (t :: ts) outcome) :
    Phrase.value.Reads (t :: ts) := by
  intro depth
  cases depth with
  | zero =>
    obtain ⟨l, hl⟩ := hlimit
    exact ⟨.error l, fun hfits => absurd (hfits.depth_pos ht) (by omega),
      readsValue_of_opening ht fun text rest _ => hl _⟩
  | succ depth => exact h depth

/-- No phrase starts with a closing bracket. -/
theorem Derives.skipWhite_append {p : Phrase} {ts : List Lexeme} {text : List Char}
    (h : Derives p ts) (htext : Spaced ts text) (rest : List Char) :
    ∃ c cs, skipWhite (text ++ rest) = c :: cs ∧ c ≠ ']' ∧ c ≠ '}' := by
  have hvalid := h.valid
  obtain ⟨t, us, rfl, ht⟩ := h.exists_cons
  obtain ⟨tail, -, hskip⟩ := htext.skipWhite_append (hvalid t (by simp))
  obtain ⟨c, cs, hc, -, hclosing⟩ := (hvalid t (by simp)).exists_text_eq
  rw [ht] at hclosing
  refine ⟨c, cs ++ (tail ++ rest), by rw [hskip, hc, List.cons_append], ?_, ?_⟩
  · rintro rfl
    contradiction
  · rintro rfl
    contradiction

theorem readsValue_emptyList (depth : Nat) :
    ReadsValue (depth + 1) [.openList, .closeList] (.ok (.list [])) := by
  refine readsValue_of_opening rfl fun text rest htext => ?_
  obtain ⟨tail, htail, hskip⟩ := htext.skipWhite_append trivial
  cases htail
  have hskip : skipWhite (text ++ rest) = ']' :: rest := hskip rest
  simp [Ends, Lexeme.text, value, hskip]

theorem readsValue_emptyObject (depth : Nat) :
    ReadsValue (depth + 1) [.openObject, .closeObject] (.ok (.object [])) := by
  refine readsValue_of_opening rfl fun text rest htext => ?_
  obtain ⟨tail, htail, hskip⟩ := htext.skipWhite_append trivial
  cases htail
  have hskip : skipWhite (text ++ rest) = '}' :: rest := hskip rest
  simp [Ends, Lexeme.text, value, hskip]

section

variable {depth : Nat} {ts us : List Lexeme}

/-- A list is read by reading its items. -/
theorem ReadsItems.list {outcome : Except Limit (List Value)} (h : ReadsItems depth ts outcome)
    (hts : Derives .items ts) :
    ReadsValue (depth + 1) (.openList :: (ts ++ [.closeList])) (outcome.map .list) := by
  refine readsValue_of_opening rfl fun text rest htext => ?_
  obtain ⟨first, w, hfirst, hw, hcut⟩ := htext.of_append_singleton
  obtain ⟨c, cs, hskip, hc, -⟩ := hts.skipWhite_append hfirst (w ++ ']' :: rest)
  have hlen := hfirst.length_le hts.valid (w ++ ']' :: rest)
  -- The first item starts with no closing bracket, so the list is not taken for an empty one.
  have hitems := (h _ first w rest (Nat.le_succ_of_le hlen) hfirst hw).map Value.list
  rw [hskip] at hitems
  rw [hcut, Lexeme.text, List.cons_append, List.nil_append, Lexeme.text]
  simpa [value, hskip, hc] using hitems

/-- An object is read by reading its members. -/
theorem ReadsMembers.object {outcome : Except Limit Fields}
    (h : ReadsMembers depth [] ts outcome) (hts : Derives .members ts) :
    ReadsValue (depth + 1) (.openObject :: (ts ++ [.closeObject])) (outcome.map .object) := by
  refine readsValue_of_opening rfl fun text rest htext => ?_
  obtain ⟨first, w, hfirst, hw, hcut⟩ := htext.of_append_singleton
  obtain ⟨c, cs, hskip, -, hc⟩ := hts.skipWhite_append hfirst (w ++ '}' :: rest)
  have hlen := hfirst.length_le hts.valid (w ++ '}' :: rest)
  -- The first key starts with no closing brace, so the object is not taken for an empty one.
  have hmembers := (h _ first w rest (Nat.le_succ_of_le hlen) hfirst hw).map Value.object
  rw [hskip] at hmembers
  rw [hcut, Lexeme.text, List.cons_append, List.nil_append, Lexeme.text]
  simpa [value, hskip, hc] using hmembers

theorem Derives.length_pos {p : Phrase} (h : Derives p ts) : 0 < ts.length := by
  obtain ⟨t, us, rfl, -⟩ := h.exists_cons
  simp

/-- The last item is read up to the closing bracket. -/
theorem ReadsValue.lastItem {outcome : Except Limit Value} (h : ReadsValue depth ts outcome)
    (hts : Derives .value ts) : ReadsItems depth ts (outcome.bind fun v => .ok [v]) := by
  intro n text w rest hn htext hw
  -- A value has a lexeme, so there is fuel to read it.
  obtain ⟨m, rfl⟩ : ∃ m, n = m + 1 := ⟨n - 1, by have := hts.length_pos; omega⟩
  obtain ⟨hdelimited, hclose⟩ := hw.before_mark (c := ']') (by simp) rest
  rw [items]
  refine (h text _ htext hdelimited).bind fun v => ?_
  simp [hclose, Ends]

/-- An item is read up to its comma, and then the others. -/
theorem ReadsValue.item {outcome : Except Limit Value} {outcome' : Except Limit (List Value)}
    (h : ReadsValue depth ts outcome) (hrest : ReadsItems depth us outcome') :
    ReadsItems depth (ts ++ .comma :: us) (outcome.bind fun v => outcome'.map (v :: ·)) := by
  intro n text w rest hn htext hw
  obtain ⟨first, second, rfl, hfirst, hsecond⟩ := htext.of_append
  cases hsecond with
  | @cons _ _ w' second hw' hsecond =>
  obtain ⟨m, rfl⟩ : ∃ m, n = m + 1 := ⟨n - 1, by simp at hn; omega⟩
  have hm : us.length ≤ m := by simp at hn; omega
  obtain ⟨hdelimited, hcomma⟩ :=
    hw'.before_mark (c := ',') (by simp) (second ++ (w ++ ']' :: rest))
  simp only [List.append_assoc, Lexeme.text, List.cons_append, List.nil_append]
  rw [items]
  refine (h first _ hfirst hdelimited).bind fun v => ?_
  simpa [hcomma] using (hrest m second w rest hm hsecond hw).map (v :: ·)

/-- A key, its colon and its value are read whole. -/
theorem ReadsValue.member {key : List Char} {k : String} {outcome : Except Limit Value}
    (h : ReadsValue depth ts outcome) (hkey : LiteralBody key)
    (hk : ∀ start rest, string start (key ++ '"' :: rest) = .ok (k, rest)) :
    ReadsMember depth (.literal key :: .colon :: ts) (outcome.map (k, ·)) := by
  intro text rest htext hrest
  obtain ⟨tail, htail, hskip⟩ := htext.skipWhite_append hkey
  obtain ⟨tail', htail', hskip'⟩ := htail.skipWhite_append trivial
  have hcolon : skipWhite (tail ++ rest) = ':' :: (tail' ++ rest) := hskip' rest
  rw [hskip, Lexeme.text, List.cons_append, List.append_assoc, List.cons_append, List.nil_append]
  simpa [Reader.member, hk, Except.bind, hcolon] using (h tail' rest htail' hrest).map (k, ·)

/-- The last member is read up to the closing brace. -/
theorem ReadsMember.lastMember {outcome : Except Limit (String × Value)}
    (h : ReadsMember depth ts outcome) (hts : 0 < ts.length) (fields : Fields) :
    ReadsMembers depth fields ts (outcome.bind fun p => .ok (Fields.put p.1 p.2 fields)) := by
  intro n text w rest hn htext hw
  obtain ⟨m, rfl⟩ : ∃ m, n = m + 1 := ⟨n - 1, by omega⟩
  obtain ⟨hdelimited, hclose⟩ := hw.before_mark (c := '}') (by simp) rest
  rw [members]
  refine (h text _ htext hdelimited).bind fun p => ?_
  simp [hclose, Ends]

/-- A member is read up to its comma, and then the others.  How these end depends on the fields that
are there already. -/
theorem ReadsMember.member {outcome : Except Limit (String × Value)}
    {outcome' : Fields → Except Limit Fields} (h : ReadsMember depth ts outcome)
    (hrest : ∀ fields, ReadsMembers depth fields us (outcome' fields)) (fields : Fields) :
    ReadsMembers depth fields (ts ++ .comma :: us)
      (outcome.bind fun p => outcome' (Fields.put p.1 p.2 fields)) := by
  intro n text w rest hn htext hw
  obtain ⟨first, second, rfl, hfirst, hsecond⟩ := htext.of_append
  cases hsecond with
  | @cons _ _ w' second hw' hsecond =>
  obtain ⟨m, rfl⟩ : ∃ m, n = m + 1 := ⟨n - 1, by simp at hn; omega⟩
  have hm : us.length ≤ m := by simp at hn; omega
  obtain ⟨hdelimited, hcomma⟩ :=
    hw'.before_mark (c := ',') (by simp) (second ++ (w ++ '}' :: rest))
  simp only [List.append_assoc, Lexeme.text, List.cons_append, List.nil_append]
  rw [members]
  refine (h first _ hfirst hdelimited).bind fun p => ?_
  simpa [hcomma] using hrest (Fields.put p.1 p.2 fields) m second w rest hm hsecond hw

end

/-! ## The grammar -/

theorem LiteralBody.reads {body : List Char} (h : LiteralBody body) :
    Phrase.value.Reads [.literal body] := by
  intro depth
  obtain ⟨s, hs⟩ := h.string_append
  exact ⟨.ok (.str s), fun _ => ⟨_, rfl⟩, h.readsValue hs depth⟩

theorem BareText.reads {text : List Char} (h : BareText text) :
    Phrase.value.Reads [.bare text] := by
  intro depth
  obtain ⟨outcome, hok, hends⟩ := h.scalar_append
  exact ⟨outcome, fun hfits => hok (hfits.digits text (by simp)), h.readsValue hends depth⟩

theorem Derives.reads_list {ts : List Lexeme} (hts : Derives .items ts)
    (h : Phrase.items.Reads ts) : Phrase.value.Reads (.openList :: (ts ++ [.closeList])) := by
  refine reads_of_succ rfl ⟨.listDepth, fun rest => ⟨_, rfl⟩⟩ fun depth => ?_
  obtain ⟨outcome, hok, hends⟩ := h depth
  refine ⟨outcome.map .list, fun hfits => ?_, hends.list hts⟩
  obtain ⟨vs, rfl⟩ := hok (hfits.inside rfl).left
  exact ⟨_, rfl⟩

theorem Derives.reads_object {ts : List Lexeme} (hts : Derives .members ts)
    (h : Phrase.members.Reads ts) : Phrase.value.Reads (.openObject :: (ts ++ [.closeObject])) := by
  refine reads_of_succ rfl ⟨.objectDepth, fun rest => ⟨_, rfl⟩⟩ fun depth => ?_
  obtain ⟨outcome, hok, hends⟩ := h depth []
  refine ⟨outcome.map .object, fun hfits => ?_, hends.object hts⟩
  obtain ⟨fs, rfl⟩ := hok (hfits.inside rfl).left
  exact ⟨_, rfl⟩

theorem Derives.reads_lastItem {ts : List Lexeme} (hts : Derives .value ts)
    (h : Phrase.value.Reads ts) : Phrase.items.Reads ts := by
  intro depth
  obtain ⟨outcome, hok, hends⟩ := h depth
  refine ⟨_, fun hfits => ?_, hends.lastItem hts⟩
  obtain ⟨v, rfl⟩ := hok hfits
  exact ⟨_, rfl⟩

theorem Derives.reads_item {ts us : List Lexeme} (hts : Derives .value ts)
    (h : Phrase.value.Reads ts) (hrest : Phrase.items.Reads us) :
    Phrase.items.Reads (ts ++ .comma :: us) := by
  intro depth
  obtain ⟨outcome, hok, hends⟩ := h depth
  obtain ⟨outcome', hok', hends'⟩ := hrest depth
  refine ⟨_, fun hfits => ?_, hends.item hends'⟩
  obtain ⟨v, rfl⟩ := hok hfits.left
  have hfits' : Fits depth us := (hfits.right hts.balanced).tail rfl rfl
  obtain ⟨vs, rfl⟩ := hok' hfits'
  exact ⟨_, rfl⟩

theorem LiteralBody.reads_member {key : List Char} {ts : List Lexeme} (hkey : LiteralBody key)
    (h : Phrase.value.Reads ts) (depth : Nat) :
    ∃ outcome, (Fits depth ts → ∃ p, outcome = .ok p) ∧
      ReadsMember depth (.literal key :: .colon :: ts) outcome := by
  obtain ⟨k, hk⟩ := hkey.string_append
  obtain ⟨outcome, hok, hends⟩ := h depth
  refine ⟨outcome.map (k, ·), fun hfits => ?_, hends.member hkey hk⟩
  obtain ⟨v, rfl⟩ := hok hfits
  exact ⟨_, rfl⟩

theorem LiteralBody.reads_lastMember {key : List Char} {ts : List Lexeme}
    (hkey : LiteralBody key) (h : Phrase.value.Reads ts) :
    Phrase.members.Reads (.literal key :: .colon :: ts) := by
  intro depth fields
  obtain ⟨outcome, hok, hends⟩ := hkey.reads_member h depth
  refine ⟨_, fun hfits => ?_, hends.lastMember (by simp) fields⟩
  obtain ⟨p, rfl⟩ := hok ((hfits.tail rfl rfl).tail rfl rfl)
  exact ⟨_, rfl⟩

theorem Derives.reads_member {key : List Char} {ts us : List Lexeme} (hkey : LiteralBody key)
    (hts : Derives .value ts) (h : Phrase.value.Reads ts) (hrest : Phrase.members.Reads us) :
    Phrase.members.Reads (.literal key :: .colon :: (ts ++ .comma :: us)) := by
  intro depth fields
  obtain ⟨outcome, hok, hends⟩ := hkey.reads_member h depth
  obtain ⟨outcome', hothers⟩ := Classical.axiomOfChoice (hrest depth)
  refine ⟨_, fun hfits => ?_, hends.member (fun fields => (hothers fields).2) fields⟩
  have hfits : Fits depth (ts ++ .comma :: us) := (hfits.tail rfl rfl).tail rfl rfl
  obtain ⟨p, rfl⟩ := hok hfits.left
  exact (hothers _).1 ((hfits.right hts.balanced).tail rfl rfl)

/-- The reader takes every phrase of the grammar. -/
theorem Derives.reads {p : Phrase} {ts : List Lexeme} (h : Derives p ts) : p.Reads ts := by
  induction h with
  | literal h => exact h.reads
  | bare h => exact h.reads
  | emptyList =>
    exact reads_of_succ rfl ⟨.listDepth, fun rest => ⟨_, rfl⟩⟩ fun depth =>
      ⟨_, fun _ => ⟨_, rfl⟩, readsValue_emptyList depth⟩
  | list h ih => exact h.reads_list ih
  | emptyObject =>
    exact reads_of_succ rfl ⟨.objectDepth, fun rest => ⟨_, rfl⟩⟩ fun depth =>
      ⟨_, fun _ => ⟨_, rfl⟩, readsValue_emptyObject depth⟩
  | object h ih => exact h.reads_object ih
  | lastItem h ih => exact h.reads_lastItem ih
  | item h _ ih ih' => exact h.reads_item ih ih'
  | lastMember hkey _ ih => exact hkey.reads_lastMember ih
  | member hkey h _ ih ih' => exact h.reads_member hkey ih ih'

/-! ## Texts -/

/-- What starts with a brace is read as an object or not at all. -/
theorem exists_fields_of_value {depth : Nat} {cs rest : List Char} {v : Value}
    (h : value depth ('{' :: cs) = .ok (v, rest)) : ∃ fields, v = .object fields := by
  cases depth with
  | zero => simp [value] at h
  | succ depth =>
    simp only [value] at h
    split at h
    · simp only [Except.ok.injEq, Prod.mk.injEq] at h
      exact ⟨[], h.1.symm⟩
    · cases hmembers : members (value depth) (skipWhite cs).length.succ [] (skipWhite cs) with
      | error e => simp [hmembers, Except.map] at h
      | ok r =>
        simp only [hmembers, Except.map, Except.ok.injEq, Prod.mk.injEq] at h
        exact ⟨r.1, h.1.symm⟩

/-- A text is read by reading a value, if it has no byte order mark and only white space follows. -/
theorem document_of_value {text last : List Char} {v : Value} (hmark : text.head? ≠ some '\uFEFF')
    (hlast : White last) (h : value Limit.maxDepth (skipWhite text) = .ok (v, last)) :
    document text = .ok v := by
  have hend : skipWhite last = [] := by
    have hskip := hlast.skipWhite_append []
    rwa [List.append_nil] at hskip
  unfold document
  split
  · exact absurd rfl hmark
  · simp [h, Except.bind, hend]

theorem document_of_error {text : List Char} {f : FaultAt} (hmark : text.head? ≠ some '\uFEFF')
    (h : value Limit.maxDepth (skipWhite text) = .error f) : document text = .error f := by
  unfold document
  split
  · exact absurd rfl hmark
  · simp [h, Except.bind]

/-- No text of lexemes starts with a byte order mark. -/
theorem Spaced.head?_ne_mark {t : Lexeme} {ts : List Lexeme} {body : List Char}
    (h : Spaced (t :: ts) body) (ht : t.Valid) (rest : List Char) :
    (body ++ rest).head? ≠ some '\uFEFF' := by
  cases h with
  | @cons _ _ w tail hw _ =>
  intro hmark
  cases w with
  | cons c w =>
    obtain rfl : c = '\uFEFF' := by simpa using hmark
    exact absurd (hw '\uFEFF' (by simp)) (by decide)
  | nil =>
    cases t with
    | bare text =>
      obtain ⟨c, cs, rfl⟩ := List.exists_cons_of_ne_nil (BareText.ne_nil ht)
      obtain rfl : c = '\uFEFF' := by simpa [Lexeme.text] using hmark
      exact absurd (BareText.isBareChar ht '\uFEFF' (by simp)) (by decide)
    | literal | openList | closeList | openObject | closeObject | colon | comma =>
      simp [Lexeme.text] at hmark

/-- How an object is read depends on its lexemes alone, not on the white space between them. -/
theorem Derives.document_eq {ts : List Lexeme} (h : Derives .value (.openObject :: ts))
    {plain text : List Char} (hplain : Writes (.openObject :: ts) plain)
    (htext : Writes (.openObject :: ts) text) :
    (∃ fields, document plain = .ok (.object fields) ∧ document text = .ok (.object fields)) ∨
      (¬ Fits Limit.maxDepth (.openObject :: ts) ∧ ∃ l,
        (∃ place, document plain = .error ⟨.limit l, place⟩) ∧
          ∃ place, document text = .error ⟨.limit l, place⟩) := by
  -- The lexemes alone decide how the reader ends; both texts only say what is left then.
  obtain ⟨outcome, hok, hends⟩ := h.reads Limit.maxDepth
  obtain ⟨body, last, hbody, hlast, rfl⟩ := hplain
  obtain ⟨body', last', hbody', hlast', rfl⟩ := htext
  have hmark := hbody.head?_ne_mark trivial last
  have hmark' := hbody'.head?_ne_mark trivial last'
  obtain ⟨tail, -, hskip⟩ := hbody.skipWhite_append trivial
  have hvalue := hends body last hbody hlast.delimited
  have hvalue' := hends body' last' hbody' hlast'.delimited
  cases outcome with
  | ok v =>
    have hplain := document_of_value hmark hlast hvalue
    have htext := document_of_value hmark' hlast' hvalue'
    rw [hskip, Lexeme.text, List.singleton_append] at hvalue
    obtain ⟨fields, rfl⟩ := exists_fields_of_value hvalue
    exact .inl ⟨fields, hplain, htext⟩
  | error l =>
    obtain ⟨place, hvalue⟩ := hvalue
    obtain ⟨place', hvalue'⟩ := hvalue'
    refine .inr ⟨fun hfits => ?_, l, ⟨place, document_of_error hmark hvalue⟩, place',
      document_of_error hmark' hvalue'⟩
    obtain ⟨v, hv⟩ := hok hfits
    contradiction

end FenceLint.Json
