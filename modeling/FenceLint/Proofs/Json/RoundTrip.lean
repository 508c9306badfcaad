import FenceLint.Proofs.Config.Decorated
import FenceLint.Proofs.Json.Writing

/-!
# From values to texts and back

A value without points and exponents, whose objects have each key once and which does not nest too
deep, is `Regular`.  If it can be written at all, its text is read as the value again
(`Regular.read_of_write`).  The passes that remove comments and extra commas change nothing about
that: a plain text is a decorated one without decorations (`Regular.parse_of_write`).
-/

namespace FenceLint.Json

open Reader

/-! ## Regular values -/

/-- The value nests at most `depth` levels deep, has no numbers with a point or an exponent, and no
key twice in an object. -/
inductive Regular : Nat → Value → Prop where
  | null {depth : Nat} : Regular depth .null
  | bool {depth : Nat} (b : Bool) : Regular depth (.bool b)
  | int {depth : Nat} (n : Int) : Regular depth (.int n)
  | str {depth : Nat} (s : String) : Regular depth (.str s)
  | list {depth : Nat} {vs : List Value} (h : ∀ v ∈ vs, Regular depth v) :
      Regular (depth + 1) (.list vs)
  | object {depth : Nat} {fs : Fields} (hkeys : (fs.map Prod.fst).Nodup)
      (h : ∀ f ∈ fs, Regular depth f.2) : Regular (depth + 1) (.object fs)

theorem mem_wholeNumbersOfItems {n : Int} {v : Value} {vs : List Value} (hv : v ∈ vs)
    (hn : n ∈ v.wholeNumbers) : n ∈ wholeNumbersOfItems vs := by
  induction vs with
  | nil => contradiction
  | cons w vs ih =>
    rw [wholeNumbersOfItems, List.mem_append]
    rcases List.mem_cons.1 hv with rfl | hv
    · exact .inl hn
    · exact .inr (ih hv)

theorem mem_wholeNumbersOfFields {n : Int} {f : String × Value} {fs : Fields} (hf : f ∈ fs)
    (hn : n ∈ f.2.wholeNumbers) : n ∈ wholeNumbersOfFields fs := by
  induction fs with
  | nil => contradiction
  | cons g fs ih =>
    rw [wholeNumbersOfFields, List.mem_append]
    rcases List.mem_cons.1 hf with rfl | hf
    · exact .inl hn
    · exact .inr (ih hf)

/-- A regular value is spelled by lexemes, if its numbers are not too long. -/
theorem Regular.exists_spells {depth : Nat} {v : Value} (h : Regular depth v)
    (hshort : ∀ n ∈ v.wholeNumbers, Text.isShort n = true) : ∃ ts, Spells depth v ts := by
  induction h with
  | null => exact ⟨_, spells_word (w := "null") (by simp [words]) fun _ => rfl⟩
  | bool b =>
    cases b with
    | true => exact ⟨_, spells_word (w := "true") (by simp [words]) fun _ => rfl⟩
    | false => exact ⟨_, spells_word (w := "false") (by simp [words]) fun _ => rfl⟩
  | int n => exact ⟨_, spells_int (hshort n (by simp [Value.wholeNumbers]))⟩
  | str s => exact ⟨_, spells_str _ s⟩
  | list _ ih =>
    refine exists_spells_list fun v hv => ih v hv fun n hn => hshort n ?_
    exact mem_wholeNumbersOfItems hv hn
  | object hkeys _ ih =>
    refine exists_spells_object hkeys fun f hf => ih f hf fun n hn => hshort n ?_
    exact mem_wholeNumbersOfFields hf hn

/-! ## Texts -/

theorem write?_eq_some_iff {v : Value} {text : String} :
    write? v = some text ↔ (∀ n ∈ v.wholeNumbers, Text.isShort n = true) ∧
      text = String.ofList (Writer.value 0 v) := by
  rw [write?]
  by_cases hshort : v.wholeNumbers.all Text.isShort = true
  · rw [if_pos hshort, Option.some_inj, eq_comm]
    exact ⟨fun h => ⟨List.all_eq_true.1 hshort, h⟩, And.right⟩
  · rw [if_neg hshort]
    exact ⟨fun h => by contradiction, fun h => absurd (List.all_eq_true.2 h.1) hshort⟩

/-- Nothing is written for a value with a number that is too long. -/
theorem write?_eq_none_iff {v : Value} :
    write? v = none ↔ ∃ n ∈ v.wholeNumbers, Text.isShort n = false := by
  rw [write?]
  by_cases hshort : v.wholeNumbers.all Text.isShort = true
  · rw [if_pos hshort]
    exact ⟨fun h => by contradiction, fun hlong =>
      (Text.false_of_short_of_long (List.all_eq_true.1 hshort) hlong).elim⟩
  · rw [if_neg hshort]
    rw [Bool.not_eq_true, List.all_eq_false] at hshort
    obtain ⟨n, hn, hlong⟩ := hshort
    exact ⟨fun _ => ⟨n, hn, Bool.not_eq_true _ ▸ hlong⟩, fun _ => rfl⟩

/-- A text that writes the lexemes of a value is read as the value. -/
theorem Spells.document_of_writes {v : Value} {ts : List Lexeme} {text : List Char}
    (h : Spells Limit.maxDepth v ts) (htext : Writes ts text) : document text = .ok v := by
  obtain ⟨body, last, hbody, hlast, rfl⟩ := htext
  refine document_of_value ?_ hlast (h.reads body last hbody hlast.delimited)
  have hvalid := h.derives.valid
  obtain ⟨t, us, rfl, -⟩ := h.derives.exists_cons
  exact hbody.head?_ne_mark (hvalid t (by simp)) last

/-- White space is a gap without comments. -/
theorem White.gap {w : List Char} (hw : White w) : Gap w := by
  induction w with
  | nil => exact .nil
  | cons c w ih =>
    obtain ⟨hc, hw⟩ := List.forall_mem_cons.1 hw
    exact .white hc (ih hw)

/-- A plain text is a decorated one without comments and extra commas. -/
theorem Writes.decorates {ts : List Lexeme} {text : List Char} (h : Writes ts text) :
    Decorates ts text := by
  have hlayout : ∀ {ts : List Lexeme} {body : List Char}, Spaced ts body →
      ∀ ended, Layout Gap ended ts body := by
    intro ts body hbody
    induction hbody with
    | nil => exact fun _ => .nil
    | cons hw _ ih => exact fun _ => .lexeme hw.gap (ih _)
  obtain ⟨body, last, hbody, hlast, rfl⟩ := h
  exact ⟨body, last, hlayout hbody false, .gap hlast.gap, rfl⟩

/-- The text of a regular value writes lexemes that spell it, also with white space after it. -/
theorem Regular.exists_writes {depth : Nat} {v : Value} {text last : String} (h : Regular depth v)
    (hwrite : write? v = some text) (hlast : White last.toList) :
    ∃ ts, Spells depth v ts ∧ Writes ts (text ++ last).toList := by
  obtain ⟨hshort, rfl⟩ := write?_eq_some_iff.1 hwrite
  obtain ⟨ts, hts⟩ := h.exists_spells hshort
  refine ⟨ts, hts, Writer.value 0 v, last.toList, hts.writes 0, hlast, ?_⟩
  rw [String.toList_append, String.toList_ofList]

/-- What was written is read back. -/
theorem Regular.read_of_write {v : Value} {text last : String} (h : Regular Limit.maxDepth v)
    (hwrite : write? v = some text) (hlast : White last.toList) :
    Json.read (text ++ last) = .ok v := by
  obtain ⟨ts, hts, hwrites⟩ := h.exists_writes hwrite hlast
  exact read_of_document (hts.document_of_writes hwrites)

/-- What was written is a configuration, whatever its texts hold: the passes that remove comments
and extra commas do not look into literals. -/
theorem Regular.parse_of_write {fields : Fields} {text last : String}
    (h : Regular Limit.maxDepth (.object fields)) (hwrite : write? (.object fields) = some text)
    (hlast : White last.toList) (source : String) :
    Config.parse (text ++ last) source = .ok fields := by
  obtain ⟨ts, hts, hwrites⟩ := h.exists_writes hwrite hlast
  have hstripped := hwrites.decorates.writes_strip hts.derives
  exact Config.parse_of_document source (hts.document_of_writes hstripped)

end FenceLint.Json
