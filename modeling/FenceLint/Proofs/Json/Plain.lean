import FenceLint.Proofs.Json.Accepted
import FenceLint.Proofs.Json.Comments

/-!
# Plain texts

JSON without comments and extra commas is left as it stands by the passes that remove these,
character by character.  Both passes enter and leave literals where the grammar has them, so what
looks like a comment or an extra comma inside a literal is none to them; outside of literals the
grammar knows no slash, and no comma before a closing bracket.

Every text that is read is such a plain text (`exists_writes_of_document`), and so is every text
that is left by the passes and can be read (`strip_of_read`).  Both are about the text, in which a
half of a surrogate pair is an escape like others, whatever it is read as.
-/

namespace FenceLint.Json

open Comments

variable {filler : List Char} {ts : List Lexeme} {body text : List Char}

/-- Lexemes with white space between them need no extra commas. -/
theorem Spaced.loose (h : Spaced ts body) : Loose White ts body := by
  induction h with
  | nil => exact .nil
  | cons hw _ ih => exact .lexeme hw ih

/-- The first pass keeps lexemes and the white space between them. -/
theorem Spaced.replaceFrom_append (h : Spaced ts body) (hts : ∀ t ∈ ts, t.Valid)
    (rest : List Char) :
    replaceFrom filler .code (body ++ rest) = body ++ replaceFrom filler .code rest := by
  induction h with
  | nil => rfl
  | cons hw _ ih =>
    obtain ⟨ht, hts⟩ := List.forall_mem_cons.1 hts
    simp only [List.append_assoc]
    rw [hw.replaceFrom_append, ht.replaceFrom_append, ih hts]

/-- The second pass keeps lexemes and the white space between them. -/
theorem Spaced.dropCommasFrom_append (h : Spaced ts body) (hts : ∀ t ∈ ts, t.Valid)
    (hsep : Separated ts) (rest : List Char) :
    dropCommasFrom .code (body ++ rest) = body ++ dropCommasFrom .code rest := by
  induction h with
  | nil => rfl
  | cons hw h ih =>
    simp only [List.append_assoc]
    rw [hsep.dropCommasFrom_append hts hw h.loose, ih (List.forall_mem_cons.1 hts).2 hsep.tail]

/-- A plain text holds no comments. -/
theorem Writes.remove_eq (h : Writes ts text) (hts : ∀ t ∈ ts, t.Valid) :
    Comments.remove text = text := by
  obtain ⟨body, last, hbody, hlast, rfl⟩ := h
  have hend : replaceFrom [] .code (last ++ []) = last ++ replaceFrom [] .code [] :=
    hlast.replaceFrom_append []
  rw [List.append_nil, replaceFrom, List.append_nil] at hend
  rw [Comments.remove, ← replaceFrom_nil, hbody.replaceFrom_append hts, hend]

/-- A plain text holds no extra commas. -/
theorem Writes.dropCommas_eq (h : Writes ts text) (hts : ∀ t ∈ ts, t.Valid)
    (hsep : Separated ts) : Comments.dropCommas text = text := by
  obtain ⟨body, last, hbody, hlast, rfl⟩ := h
  have hend := hlast.dropCommasFrom_append []
  rw [List.append_nil, dropCommasFrom, List.append_nil] at hend
  rw [Comments.dropCommas, hbody.dropCommasFrom_append hts hsep, hend]

/-- A plain text of the grammar is left as it stands, whether or not it is within the limits of the
reader. -/
theorem Writes.strip_eq {p : Phrase} {text : String} (h : Writes ts text.toList)
    (hts : Derives p ts) : strip text = text := by
  rw [strip, h.remove_eq hts.valid, h.dropCommas_eq hts.valid hts.separated, String.ofList_toList]

/-- What is read is a plain text of the grammar. -/
theorem exists_writes_of_read {text : String} {v : Value} (h : Json.read text = .ok v) :
    ∃ ts, Derives .value ts ∧ Writes ts text.toList := by
  rw [Json.read] at h
  cases hdocument : Reader.document text.toList with
  | error f => simp [hdocument, Except.mapError] at h
  | ok v' => exact exists_writes_of_document hdocument

/-- A text that can be read is left as it stands: nothing in it is taken for a comment or an extra
comma.  The same holds of every text of the grammar, also of one that is nested too deep to be read.
So a text that can be read after its comments and extra commas are removed does not change any
more. -/
theorem strip_of_read (text : String) :
    (∀ v, Json.read text = .ok v → strip text = text) ∧
      (∀ ts, Derives .value ts → Writes ts text.toList → strip text = text) ∧
      ∀ v, Json.read (strip text) = .ok v → strip (strip text) = strip text := by
  have hplain : ∀ (plain : String) (v : Value), Json.read plain = .ok v → strip plain = plain := by
    intro plain v h
    obtain ⟨ts, hts, hwrites⟩ := exists_writes_of_read h
    exact hwrites.strip_eq hts
  exact ⟨hplain text, fun ts hts hwrites => hwrites.strip_eq hts, hplain (strip text)⟩

/-- Literals that hold the marks of comments, an escaped quote, a backslash at the end and a comma
before a bracket; a text by its lexemes; and one whose comment and extra comma are removed once. -/
theorem strip_of_read_hidden_marks :
    strip "\x7b\"//\" : [\"/*,]\\\"\\\\\", -1e5 ]\n\x7d" =
        "\x7b\"//\" : [\"/*,]\\\"\\\\\", -1e5 ]\n\x7d" ∧
      strip "[ ]" = "[ ]" ∧ strip "[1,/*\"*/]//,]" = "[1]" ∧ strip "[1]" = "[1]" := by
  have hmarks : ∃ v, Json.read "\x7b\"//\" : [\"/*,]\\\"\\\\\", -1e5 ]\n\x7d" = .ok v := ⟨_, rfl⟩
  have hempty : Writes [.openList, .closeList] "[ ]".toList :=
    ⟨_, [], .cons (w := []) (by simp [White])
      (.cons (w := [' ']) (by simp [White, whiteChars]) .nil),
      by simp [White], rfl⟩
  have hstrip : strip "[1,/*\"*/]//,]" = "[1]" := by decide +kernel
  have hread : Json.read (strip "[1,/*\"*/]//,]") = .ok (.list [.int 1]) := by
    rw [hstrip]
    rfl
  obtain ⟨v, hv⟩ := hmarks
  refine ⟨(strip_of_read _).1 v hv, (strip_of_read _).2.1 _ .emptyList hempty, hstrip, ?_⟩
  have htwice := (strip_of_read "[1,/*\"*/]//,]").2.2 _ hread
  rwa [hstrip] at htwice

end FenceLint.Json
