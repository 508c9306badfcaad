import FenceLint.Proofs.Config.Decorated
import FenceLint.Proofs.Json.Accepted
import FenceLint.Proofs.Json.TracedCommas
import FenceLint.Proofs.Json.TracedComments

/-!
# Which texts are configurations

A text is a configuration exactly if it is an object once its comments are gone: lexemes with white
space between them, and with extra commas before closing brackets (`Config.parse_eq_ok_iff`).  So
comments are removed and do not separate lexemes.  If each of them is replaced by a space instead, a
text is a configuration exactly if it is one anyway and its comments stand between lexemes
(`Config.parse_space_eq_ok_iff`).

What a text is read as has no halves of surrogate pairs in it: they are replaced on reading, also in
keys (`Json.Reader.unitChar`).
-/

namespace FenceLint

open Json

/-- A text with a space in the place of each comment. -/
def Json.Comments.space (text : String) : String :=
  String.ofList (replaceFrom [' '] .code text.toList)

/-- The first pass finds no comments in such a text. -/
theorem Json.Comments.remove_space (text : String) :
    remove (space text).toList = replaceFrom [' '] .code text.toList := by
  rw [remove, space, String.toList_ofList, ← replaceFrom_nil, replaceFrom_space]

/-- The lexemes mean an object with these fields: every plain text of them is read as it. -/
def Json.Means (ts : List Lexeme) (fields : Fields) : Prop :=
  ∀ plain : String, Writes ts plain.toList → Json.read plain = .ok (.object fields)

/-- What one plain text of the lexemes is read as, all of them are. -/
theorem Json.Derives.means {ts : List Lexeme} {cs : List Char} {fields : Fields}
    (hts : Derives .value (.openObject :: ts)) (hcs : Writes (.openObject :: ts) cs)
    (h : Reader.document cs = .ok (.object fields)) : Means (.openObject :: ts) fields := by
  intro plain hplain
  rcases hts.document_eq hplain hcs with ⟨fields', hread, hread'⟩ | ⟨-, l, -, place, hread'⟩
  · rw [h] at hread'
    obtain ⟨rfl⟩ := Value.object.inj (Except.ok.inj hread')
    exact read_of_document hread
  · rw [h] at hread'
    contradiction

/-- A gap starts with white space or a comment. -/
theorem Json.Gap.head?_mem {g : List Char} (hg : Gap g) : ∀ c ∈ g.head?, c ∈ '/' :: whiteChars := by
  cases hg with
  | nil => simp
  | white hc => simpa using Or.inr hc
  | line | block => simp

/-- A decorated text starts with a gap or a lexeme. -/
theorem Json.Layout.exists_cons {t : Lexeme} {ts : List Lexeme} {text : List Char}
    (h : Layout Gap false (t :: ts) text) (ht : t.Valid) :
    ∃ c rest, text = c :: rest ∧ (c ∈ '/' :: whiteChars ∨ t.text.head? = some c) := by
  cases h with
  | @lexeme _ _ _ g text hg h =>
    cases g with
    | nil =>
      obtain ⟨c, cs, htext, -, -⟩ := ht.exists_text_eq
      exact ⟨c, cs ++ text, by rw [htext]; rfl, .inr (by rw [htext]; rfl)⟩
    | cons c g => exact ⟨c, _, rfl, .inl (hg.head?_mem c rfl)⟩

namespace Config

variable {text source : String} {fields : Fields}

theorem document_of_parse (h : Config.parse text source = .ok fields) :
    Reader.document (Comments.dropCommas (Comments.remove text.toList)) = .ok (.object fields) := by
  rw [Config.parse, Json.read, Comments.strip, String.toList_ofList] at h
  generalize Reader.document (Comments.dropCommas (Comments.remove text.toList)) = r at h ⊢
  cases r with
  | error f =>
    simp only [Except.mapError] at h
    split at h <;> contradiction
  | ok v =>
    cases v with
    | object fields' => rw [Except.ok.inj h]
    | null | bool | int | float | str | list => contradiction

/-- A text is a configuration if it is an object without its comments, but for extra commas. -/
theorem parse_eq_ok_iff : Config.parse text source = .ok fields ↔
    ∃ ts, Derives .value (.openObject :: ts) ∧ Means (.openObject :: ts) fields ∧
      LaidOut White White (.openObject :: ts) (Comments.remove text.toList) := by
  constructor
  · intro h
    have hdocument := document_of_parse h
    obtain ⟨ts, hts, hwrites⟩ := exists_writes_of_object hdocument
    exact ⟨ts, hts, hts.means hwrites hdocument, hwrites.laidOut_of_dropCommas hts.valid⟩
  · rintro ⟨ts, hts, hmeans, hlaid⟩
    have hwrites := hlaid.writes_dropCommas hts
    rw [← String.toList_ofList (l := Comments.dropCommas _)] at hwrites
    rw [Config.parse, Comments.strip, hmeans _ hwrites]

/-- Between the lexemes of an object, it makes no difference whether a comment leaves nothing behind
or a space. -/
theorem parse_space_eq {ts : List Lexeme} (hts : Derives .value (.openObject :: ts))
    (htext : LaidOut Gap LastGap (.openObject :: ts) text.toList) :
    Config.parse (Comments.space text) source = Config.parse text source := by
  have hspace : White [' '] := by simp [White, whiteChars]
  have hremoved := (htext.remove hts.valid).writes_dropCommas hts
  have hspaced := (htext.replace hts.valid hspace).writes_dropCommas hts
  rw [← Comments.remove_space] at hspaced
  -- The same lexemes are left either way.
  rcases hts.document_eq hspaced hremoved with
    ⟨fields, hread, hread'⟩ | ⟨-, l, ⟨place, hread⟩, place', hread'⟩
  · rw [parse_of_document source hread, parse_of_document source hread']
  · rw [parse_of_limit source hread, parse_of_limit source hread']

/-- With spaces in the place of its comments, a text is a configuration if it is one anyway and the
comments stand between lexemes. -/
theorem parse_space_eq_ok_iff : Config.parse (Comments.space text) source = .ok fields ↔
    Config.parse text source = .ok fields ∧ ∃ ts, Derives .value (.openObject :: ts) ∧
      LaidOut Gap LastGap (.openObject :: ts) text.toList := by
  constructor
  · intro h
    obtain ⟨ts, hts, hmeans, hlaid⟩ := parse_eq_ok_iff.1 h
    rw [Comments.remove_space] at hlaid
    have hgaps := hlaid.of_replace hts.valid
    exact ⟨parse_eq_ok_iff.2 ⟨ts, hts, hmeans, hgaps.remove hts.valid⟩, ts, hts, hgaps⟩
  · rintro ⟨h, ts, hts, hgaps⟩
    rw [parse_space_eq hts hgaps, h]

/-- In a decorated text, a comma does not come first between brackets. -/
theorem not_decorates_lone_comma {ts : List Lexeme} (hts : Derives .value (.openObject :: ts)) :
    ¬ Decorates (.openObject :: ts) "\x7b,\x7d".toList := by
  obtain ⟨t, us, rfl, ht, hcomma⟩ : ∃ t us, ts = t :: us ∧ t.Valid ∧ t.text.head? ≠ some ',' := by
    cases hts with
    | emptyObject => exact ⟨_, _, rfl, trivial, by decide⟩
    | object h =>
      cases h with
      | lastMember hkey | member hkey => exact ⟨_, _, rfl, hkey, by simp [Lexeme.text]⟩
  rintro ⟨body, last, hbody, -, htext⟩
  cases hbody with
  | @lexeme _ _ _ g text hg h =>
    cases g with
    | cons c g =>
      obtain ⟨rfl, -⟩ := List.cons.inj htext
      exact absurd (hg.head?_mem '\x7b' rfl) (by decide)
    | nil =>
      obtain ⟨c, rest, rfl, hc⟩ := h.exists_cons ht
      obtain ⟨rfl, -⟩ := List.cons.inj (List.cons.inj htext).2
      rcases hc with hc | hc
      · exact absurd hc (by decide)
      · exact hcomma hc

/-- A configuration that is read has distinct keys. -/
theorem nodup_of_parse (h : Config.parse text source = .ok fields) :
    (fields.map Prod.fst).Nodup :=
  nodup_of_document (document_of_parse h)

/-- Which texts are configurations.  Without its comments, such a text is the lexemes of an object
with white space between them and at most one extra comma before each closing bracket, and the
configuration is what the lexemes mean.  A space in the place of each comment never makes another
configuration of a text: it is the same one if the comments stand between lexemes, and none
otherwise.  Between the lexemes of an object, the space does not change the result at all. -/
theorem parse_accepts (text source : String) (fields : Fields) :
    (Config.parse text source = .ok fields ↔
      ∃ ts, Derives .value (.openObject :: ts) ∧ Means (.openObject :: ts) fields ∧
        LaidOut White White (.openObject :: ts) (Comments.remove text.toList)) ∧
    (Config.parse (Comments.space text) source = .ok fields ↔
      Config.parse text source = .ok fields ∧
        ∃ ts, Derives .value (.openObject :: ts) ∧
          LaidOut Gap LastGap (.openObject :: ts) text.toList) ∧
    ∀ ts, Derives .value (.openObject :: ts) →
      LaidOut Gap LastGap (.openObject :: ts) text.toList →
        Config.parse (Comments.space text) source = Config.parse text source := by
  refine ⟨parse_eq_ok_iff, parse_space_eq_ok_iff, ?_⟩
  intro ts hts htext
  exact parse_space_eq hts htext

/-- A comment between lexemes, one at the end, and a comma alone between brackets. -/
theorem parse_accepts_lone_comma :
    Config.parse (Comments.space "\x7b/**/,\x7d//") = Config.parse "\x7b/**/,\x7d//" ∧
      Config.parse (Comments.space "\x7b/**/,\x7d//") = .ok [] ∧
      ∃ ts, Derives .value (.openObject :: ts) ∧ Means (.openObject :: ts) [] ∧
        LaidOut White White (.openObject :: ts) "\x7b,\x7d".toList := by
  have hbody : Loose Gap [.openObject, .closeObject] "\x7b/**/,\x7d".toList :=
    .lexeme .nil (.comma rfl (@Gap.block [] [] (by decide) .nil) .nil .nil)
  have hlast : LastGap "//".toList := @LastGap.line [] [] .nil (by decide)
  have htext : LaidOut Gap LastGap (.openObject :: [.closeObject]) "\x7b/**/,\x7d//".toList :=
    ⟨_, _, hbody, hlast, rfl⟩
  have hparse : Config.parse "\x7b/**/,\x7d//" = .ok [] := rfl
  obtain ⟨haccepted, hspaced, hsame⟩ := parse_accepts "\x7b/**/,\x7d//" "<string>" []
  refine ⟨hsame _ .emptyObject htext, hspaced.2 ⟨hparse, _, .emptyObject, htext⟩, ?_⟩
  exact haccepted.1 hparse

/-- A comment inside a number joins its parts, although with a space they would be two lexemes; and
a comma may stand alone between brackets. -/
theorem parse_joins_around_comment :
    Config.parse "\x7b\"a\":1/**/2\x7d" = .ok [("a", .int 12)] ∧
      (∃ e, Config.parse (Comments.space "\x7b\"a\":1/**/2\x7d") = .error e) ∧
      (¬ ∃ ts, Derives .value (.openObject :: ts) ∧
        Decorates (.openObject :: ts) "\x7b\"a\":1/**/2\x7d".toList) ∧
      Config.parse "\x7b,\x7d" = .ok [] ∧
      ¬ ∃ ts, Derives .value (.openObject :: ts) ∧
        Decorates (.openObject :: ts) "\x7b,\x7d".toList := by
  have hjoined : Config.parse "\x7b\"a\":1/**/2\x7d" = .ok [("a", .int 12)] := rfl
  have hspaced : Config.parse (Comments.space "\x7b\"a\":1/**/2\x7d") =
      .error (.malformed "<string>" ⟨.comma, 1, 8, 7⟩) := rfl
  refine ⟨hjoined, ⟨_, hspaced⟩, ?_, rfl, ?_⟩
  · rintro ⟨ts, hts, hdecorates⟩
    have haccepted := parse_space_eq_ok_iff.2 ⟨hjoined, ts, hts, hdecorates.laidOut⟩
    rw [hspaced] at haccepted
    contradiction
  · rintro ⟨ts, hts, hdecorates⟩
    exact not_decorates_lone_comma hts hdecorates

end Config

end FenceLint
