import FenceLint.Text.Blank

/-!
# The grammar of JSON, with and without comments

A JSON text is a sequence of lexemes.  `Derives` says which sequences are values, and three
relations say how a sequence is written down.  A plain text has white space before its lexemes
(`Writes`).  A decorated text has comments too, and possibly one more comma after a last element
(`Decorates`).  With looser rules the comma may stand before any closing bracket (`LaidOut`).

Nothing here mentions the reader or the passes that remove comments.  The words for numbers that are
not finite are part of the grammar.
-/

namespace FenceLint.Json

/-! ## Lexemes -/

/-- The hexadecimal digits. -/
def hexDigits : List Char := "0123456789abcdefABCDEF".toList

/-- The characters between the quotes of a string literal. -/
inductive LiteralBody : List Char → Prop where
  | nil : LiteralBody []
  | plain {c : Char} {cs : List Char} (hquote : c ≠ '"') (hescape : c ≠ '\\')
      (hcontrol : 0x20 ≤ c.toNat) (h : LiteralBody cs) : LiteralBody (c :: cs)
  | escape {c : Char} {cs : List Char} (hc : c ∈ ['"', '\\', '/', 'b', 'f', 'n', 'r', 't'])
      (h : LiteralBody cs) : LiteralBody ('\\' :: c :: cs)
  | unicode {a b c d : Char} {cs : List Char}
      (hhex : ∀ x ∈ [a, b, c, d], x ∈ hexDigits) (h : LiteralBody cs) :
      LiteralBody ('\\' :: 'u' :: a :: b :: c :: d :: cs)

/-- One decimal digit or more. -/
structure Digits (cs : List Char) : Prop where
  ne_nil : cs ≠ []
  digit : ∀ c ∈ cs, c.isDigit = true

/-- A number: its sign, the digits before the point, the point with the digits after it, and the
exponent. -/
inductive NumberText : List Char → Prop where
  | mk {sign whole fraction exponent : List Char} (hsign : sign = [] ∨ sign = ['-'])
      (hwhole : whole = ['0'] ∨ Digits whole ∧ whole.head? ≠ some '0')
      (hfraction : fraction = [] ∨ ∃ ds, Digits ds ∧ fraction = '.' :: ds)
      (hexponent : exponent = [] ∨ ∃ e s ds, (e = 'e' ∨ e = 'E') ∧
        (s = [] ∨ s = ['+'] ∨ s = ['-']) ∧ Digits ds ∧ exponent = e :: (s ++ ds)) :
      NumberText (sign ++ (whole ++ (fraction ++ exponent)))

/-- The words that are values. -/
def wordTexts : List String := ["null", "true", "false", "NaN", "Infinity", "-Infinity"]

/-- A value that needs no quotes. -/
inductive BareText : List Char → Prop where
  | number {cs : List Char} (h : NumberText cs) : BareText cs
  | word {w : String} (h : w ∈ wordTexts) : BareText w.toList

/-- The lexemes of JSON. -/
inductive Lexeme where
  /-- An opening bracket. -/
  | openList
  /-- A closing bracket. -/
  | closeList
  /-- An opening brace. -/
  | openObject
  /-- A closing brace. -/
  | closeObject
  /-- A colon. -/
  | colon
  /-- A comma. -/
  | comma
  /-- A string literal, without its quotes. -/
  | literal (body : List Char)
  /-- A number or a word. -/
  | bare (text : List Char)
deriving Repr, DecidableEq

namespace Lexeme

/-- How a lexeme is written. -/
def text : Lexeme → List Char
  | openList => ['[']
  | closeList => [']']
  | openObject => ['\x7b']
  | closeObject => ['\x7d']
  | colon => [':']
  | comma => [',']
  | literal body => '"' :: (body ++ ['"'])
  | bare text => text

/-- The lexeme is well formed. -/
def Valid : Lexeme → Prop
  | literal body => LiteralBody body
  | bare text => BareText text
  | _ => True

/-- The lexeme closes a list or an object. -/
def isClosing : Lexeme → Bool
  | closeList | closeObject => true
  | _ => false

/-- A list or an object may be closed after the lexeme because its last element ends with it. -/
def endsElement : Lexeme → Bool
  | closeList | closeObject | literal _ | bare _ => true
  | _ => false

end Lexeme

/-! ## Values -/

/-- The parts of a text that the grammar names. -/
inductive Phrase where
  /-- A value. -/
  | value
  /-- The items of a list, one or more, with the commas between them. -/
  | items
  /-- The members of an object, one or more, with the commas between them. -/
  | members
deriving Repr, DecidableEq

/-- The sequences of lexemes that are values, items and members. -/
inductive Derives : Phrase → List Lexeme → Prop where
  | literal {body : List Char} (h : LiteralBody body) : Derives .value [.literal body]
  | bare {text : List Char} (h : BareText text) : Derives .value [.bare text]
  | emptyList : Derives .value [.openList, .closeList]
  | list {ts : List Lexeme} (h : Derives .items ts) :
      Derives .value (.openList :: (ts ++ [.closeList]))
  | emptyObject : Derives .value [.openObject, .closeObject]
  | object {ts : List Lexeme} (h : Derives .members ts) :
      Derives .value (.openObject :: (ts ++ [.closeObject]))
  | lastItem {ts : List Lexeme} (h : Derives .value ts) : Derives .items ts
  | item {ts us : List Lexeme} (h : Derives .value ts) (hrest : Derives .items us) :
      Derives .items (ts ++ .comma :: us)
  | lastMember {key : List Char} {ts : List Lexeme} (hkey : LiteralBody key)
      (h : Derives .value ts) : Derives .members (.literal key :: .colon :: ts)
  | member {key : List Char} {ts us : List Lexeme} (hkey : LiteralBody key)
      (h : Derives .value ts) (hrest : Derives .members us) :
      Derives .members (.literal key :: .colon :: (ts ++ .comma :: us))

/-! ## Texts -/

/-- The characters of white space. -/
def whiteChars : List Char := [' ', '\t', '\n', '\r']

/-- White space. -/
def White (g : List Char) : Prop := ∀ c ∈ g, c ∈ whiteChars

/-- White space and comments.  A comment ends with its line, or with the first mark that ends a
block comment. -/
inductive Gap : List Char → Prop where
  | nil : Gap []
  | white {c : Char} {g : List Char} (hc : c ∈ whiteChars) (hg : Gap g) : Gap (c :: g)
  | line {text g : List Char} (htext : '\n' ∉ text) (hg : Gap g) :
      Gap ('/' :: '/' :: (text ++ '\n' :: g))
  | block {text g : List Char} (htext : ¬ ['*', '/'] <:+: text) (hg : Gap g) :
      Gap ('/' :: '*' :: (text ++ '*' :: '/' :: g))

/-- A gap at the end of a text, where the last line needs no line feed. -/
inductive LastGap : List Char → Prop where
  | gap {g : List Char} (hg : Gap g) : LastGap g
  | line {g text : List Char} (hg : Gap g) (htext : '\n' ∉ text) :
      LastGap (g ++ '/' :: '/' :: text)

/-- The lexemes as they are written with white space before them. -/
inductive Spaced : List Lexeme → List Char → Prop where
  | nil : Spaced [] []
  | cons {t : Lexeme} {ts : List Lexeme} {w text : List Char} (hw : White w) (h : Spaced ts text) :
      Spaced (t :: ts) (w ++ (t.text ++ text))

/-- The lexemes as they are written with a kind of gaps before them.  One more comma may stand
between the last element of a list or object and its closing bracket; `ended` tells whether an
element ends right before the text. -/
inductive Layout (G : List Char → Prop) : Bool → List Lexeme → List Char → Prop where
  | nil {ended : Bool} : Layout G ended [] []
  | lexeme {ended : Bool} {t : Lexeme} {ts : List Lexeme} {g text : List Char} (hg : G g)
      (h : Layout G t.endsElement ts text) : Layout G ended (t :: ts) (g ++ (t.text ++ text))
  | comma {t : Lexeme} {ts : List Lexeme} {g g' text : List Char} (hclosing : t.isClosing = true)
      (hg : G g) (hg' : G g') (h : Layout G t.endsElement ts text) :
      Layout G true (t :: ts) (g ++ ',' :: (g' ++ (t.text ++ text)))

/-- The lexemes as they are written with a kind of gaps before them, and possibly one more comma
before any closing bracket, also in a list or object without elements. -/
inductive Loose (G : List Char → Prop) : List Lexeme → List Char → Prop where
  | nil : Loose G [] []
  | lexeme {t : Lexeme} {ts : List Lexeme} {g text : List Char} (hg : G g) (h : Loose G ts text) :
      Loose G (t :: ts) (g ++ (t.text ++ text))
  | comma {t : Lexeme} {ts : List Lexeme} {g g' text : List Char} (hclosing : t.isClosing = true)
      (hg : G g) (hg' : G g') (h : Loose G ts text) :
      Loose G (t :: ts) (g ++ ',' :: (g' ++ (t.text ++ text)))

/-- The text writes the lexemes down, with nothing but white space between them. -/
def Writes (ts : List Lexeme) (text : List Char) : Prop :=
  ∃ body last, Spaced ts body ∧ White last ∧ text = body ++ last

/-- The text writes the lexemes down, with comments and extra commas where one likes. -/
def Decorates (ts : List Lexeme) (text : List Char) : Prop :=
  ∃ body last, Layout Gap false ts body ∧ LastGap last ∧ text = body ++ last

/-- The text writes the lexemes down, with one kind of gaps before them and another one at the end,
and with extra commas before closing brackets where one likes. -/
def LaidOut (G Last : List Char → Prop) (ts : List Lexeme) (text : List Char) : Prop :=
  ∃ body last, Loose G ts body ∧ Last last ∧ text = body ++ last

theorem Layout.loose {G : List Char → Prop} {ended : Bool} {ts : List Lexeme} {text : List Char}
    (h : Layout G ended ts text) : Loose G ts text := by
  induction h with
  | nil => exact .nil
  | lexeme hg _ ih => exact .lexeme hg ih
  | comma hclosing hg hg' _ ih => exact .comma hclosing hg hg' ih

/-- A decoration has its extra commas in places where they may stand. -/
theorem Decorates.laidOut {ts : List Lexeme} {text : List Char} (h : Decorates ts text) :
    LaidOut Gap LastGap ts text := by
  obtain ⟨body, last, hbody, hlast, htext⟩ := h
  exact ⟨body, last, hbody.loose, hlast, htext⟩

/-! ## What the grammar says of every sequence -/

/-- The characters of numbers and words. -/
def isBareChar (c : Char) : Bool :=
  c.isDigit || ('A' ≤ c && c ≤ 'Z') || ('a' ≤ c && c ≤ 'z') || c == '-' || c == '+' || c == '.'

theorem isBareChar_of_isDigit {c : Char} (h : c.isDigit = true) : isBareChar c = true := by
  simp [isBareChar, h]

theorem NumberText.isBareChar {text : List Char} (h : NumberText text) :
    ∀ c ∈ text, isBareChar c = true := by
  obtain ⟨hsign, hwhole, hfraction, hexponent⟩ := h
  have hdigits : ∀ {ds : List Char}, Digits ds → ∀ c ∈ ds, Json.isBareChar c = true :=
    fun h c hc => isBareChar_of_isDigit (h.digit c hc)
  simp only [List.forall_mem_append]
  refine ⟨?_, ?_, ?_, ?_⟩
  · rcases hsign with rfl | rfl <;> simp [Json.isBareChar]
  · rcases hwhole with rfl | ⟨hwhole, -⟩
    · simp [isBareChar_of_isDigit]
    · exact hdigits hwhole
  · rcases hfraction with rfl | ⟨ds, hds, rfl⟩
    · simp
    · exact List.forall_mem_cons.2 ⟨by decide, hdigits hds⟩
  · rcases hexponent with rfl | ⟨e, s, ds, he, hs, hds, rfl⟩
    · simp
    · refine List.forall_mem_cons.2 ⟨?_, List.forall_mem_append.2 ⟨?_, hdigits hds⟩⟩
      · rcases he with rfl | rfl <;> decide
      · rcases hs with rfl | rfl | rfl <;> simp [Json.isBareChar]

theorem NumberText.ne_nil {text : List Char} (h : NumberText text) : text ≠ [] := by
  obtain ⟨-, hwhole, -, -⟩ := h
  rcases hwhole with rfl | ⟨hwhole, -⟩
  · simp
  · simp [hwhole.ne_nil]

/-- A number or word is a run of the characters of numbers and words. -/
theorem BareText.isBareChar {text : List Char} (h : BareText text) :
    ∀ c ∈ text, isBareChar c = true := by
  cases h with
  | number h => exact h.isBareChar
  | @word w h =>
    have hwords : wordTexts.all (fun w => w.toList.all Json.isBareChar) = true := by
      decide +kernel
    exact List.all_eq_true.1 (List.all_eq_true.1 hwords w h)

theorem BareText.ne_nil {text : List Char} (h : BareText text) : text ≠ [] := by
  cases h with
  | number h => exact h.ne_nil
  | @word w h =>
    have hwords : ∀ w ∈ wordTexts, w.toList ≠ [] := by decide +kernel
    exact hwords w h

/-- The characters of numbers and words are no punctuation. -/
theorem ne_of_isBareChar {c d : Char} (hc : isBareChar c = true) (hd : isBareChar d = false) :
    c ≠ d := by
  rintro rfl
  rw [hc] at hd
  contradiction

theorem isBlank_of_mem_whiteChars {c : Char} (h : c ∈ whiteChars) : Text.isBlank c = true := by
  simp only [whiteChars, List.mem_cons, List.not_mem_nil, or_false] at h
  rcases h with rfl | rfl | rfl | rfl <;> decide

/-- Numbers and words hold no blanks. -/
theorem not_isBlank_of_isBareChar {c : Char} (h : isBareChar c = true) :
    Text.isBlank c = false := by
  have hrange : 0x2b ≤ c.toNat ∧ c.toNat ≤ 0x7a := by
    simp only [isBareChar, Char.isDigit, Bool.or_eq_true, Bool.and_eq_true, decide_eq_true_eq,
      beq_iff_eq, Char.le_def, UInt32.le_iff_toNat_le] at h
    rcases h with ((((h | h) | h) | rfl) | rfl) | rfl
    · exact ⟨Nat.le_trans (by decide) h.1, Nat.le_trans h.2 (by decide)⟩
    · exact ⟨Nat.le_trans (by decide) h.1, Nat.le_trans h.2 (by decide)⟩
    · exact ⟨Nat.le_trans (by decide) h.1, Nat.le_trans h.2 (by decide)⟩
    · decide
    · decide
    · decide
  simp [Text.isBlank, Text.inRanges, Text.blankRanges]
  omega

/-- A lexeme starts with a character that is not blank and tells whether it is a closing bracket. -/
theorem Lexeme.Valid.exists_text_eq {t : Lexeme} (ht : t.Valid) :
    ∃ c cs, t.text = c :: cs ∧ Text.isBlank c = false ∧
      (c == '}' || c == ']') = t.isClosing := by
  cases t with
  | bare text =>
    obtain ⟨c, cs, rfl⟩ := List.exists_cons_of_ne_nil (BareText.ne_nil ht)
    have hbare : Json.isBareChar c = true := BareText.isBareChar ht c (by simp)
    have hobject : c ≠ '}' := ne_of_isBareChar hbare (by decide)
    have hlist : c ≠ ']' := ne_of_isBareChar hbare (by decide)
    refine ⟨c, cs, rfl, not_isBlank_of_isBareChar hbare, ?_⟩
    simp [hobject, hlist, Lexeme.isClosing]
  | literal | openList | closeList | openObject | closeObject | colon | comma =>
    exact ⟨_, _, rfl, by decide, rfl⟩

/-- Only well-formed lexemes are derived. -/
theorem Derives.valid {p : Phrase} {ts : List Lexeme} (h : Derives p ts) : ∀ t ∈ ts, t.Valid := by
  induction h with
  | literal h => simpa [Lexeme.Valid] using h
  | bare h => simpa [Lexeme.Valid] using h
  | emptyList => simp [Lexeme.Valid]
  | list _ ih => simpa [Lexeme.Valid, or_imp, forall_and] using ih
  | emptyObject => simp [Lexeme.Valid]
  | object _ ih => simpa [Lexeme.Valid, or_imp, forall_and] using ih
  | lastItem _ ih => exact ih
  | item _ _ ih ih' =>
    intro t ht
    rcases List.mem_append.1 ht with ht | ht
    · exact ih t ht
    · rcases List.mem_cons.1 ht with rfl | ht
      · trivial
      · exact ih' t ht
  | lastMember hkey _ ih =>
    refine List.forall_mem_cons.2 ⟨hkey, List.forall_mem_cons.2 ⟨trivial, ih⟩⟩
  | member hkey _ _ ih ih' =>
    refine List.forall_mem_cons.2 ⟨hkey, List.forall_mem_cons.2 ⟨trivial, ?_⟩⟩
    exact List.forall_mem_append.2 ⟨ih, List.forall_mem_cons.2 ⟨trivial, ih'⟩⟩

/-- The first lexeme of a phrase closes nothing. -/
theorem Derives.exists_cons {p : Phrase} {ts : List Lexeme} (h : Derives p ts) :
    ∃ t us, ts = t :: us ∧ t.isClosing = false := by
  induction h with
  | literal | bare | emptyList | list | emptyObject | object | lastMember | member =>
    exact ⟨_, _, rfl, rfl⟩
  | lastItem _ ih => exact ih
  | item _ _ ih =>
    obtain ⟨t, us, rfl, ht⟩ := ih
    exact ⟨t, _, rfl, ht⟩

/-- Every comma stands before a lexeme that closes nothing. -/
inductive Separated : List Lexeme → Prop where
  | nil : Separated []
  | comma {t : Lexeme} {ts : List Lexeme} (ht : t.isClosing = false) (h : Separated (t :: ts)) :
      Separated (.comma :: t :: ts)
  | other {t : Lexeme} {ts : List Lexeme} (ht : t ≠ .comma) (h : Separated ts) :
      Separated (t :: ts)

/-- The grammar puts commas between elements only. -/
theorem Derives.separated_append {p : Phrase} {ts us : List Lexeme} (h : Derives p ts)
    (hus : Separated us) : Separated (ts ++ us) := by
  -- For the induction, any separated sequence may follow the phrase.
  have hcomma : ∀ {p : Phrase} {ts us : List Lexeme}, Derives p ts → Separated (ts ++ us) →
      Separated (.comma :: (ts ++ us)) := by
    intro p ts us hts h
    obtain ⟨t, vs, rfl, ht⟩ := hts.exists_cons
    exact .comma ht h
  induction h generalizing us with
  | literal => exact .other (by simp) hus
  | bare => exact .other (by simp) hus
  | emptyList => exact .other (by simp) (.other (by simp) hus)
  | list _ ih =>
    rw [List.cons_append, List.append_assoc]
    exact .other (by simp) (ih (.other (by simp) hus))
  | emptyObject => exact .other (by simp) (.other (by simp) hus)
  | object _ ih =>
    rw [List.cons_append, List.append_assoc]
    exact .other (by simp) (ih (.other (by simp) hus))
  | lastItem _ ih => exact ih hus
  | item _ hrest ih ih' =>
    rw [List.append_assoc, List.cons_append]
    exact ih (hcomma hrest (ih' hus))
  | lastMember _ _ ih => exact .other (by simp) (.other (by simp) (ih hus))
  | member _ _ hrest ih ih' =>
    rw [List.cons_append, List.cons_append, List.append_assoc, List.cons_append]
    exact .other (by simp) (.other (by simp) (ih (hcomma hrest (ih' hus))))

theorem Derives.separated {p : Phrase} {ts : List Lexeme} (h : Derives p ts) : Separated ts := by
  simpa using h.separated_append .nil

end FenceLint.Json
