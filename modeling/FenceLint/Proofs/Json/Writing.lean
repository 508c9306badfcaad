import FenceLint.Json.Writer
import FenceLint.Proofs.Json.Reading
import FenceLint.Proofs.Text.Numeral

/-!
# Writing values

A value that is written down is read back as it is.  The lexemes of a value stand between the two:
they are a phrase of the grammar, the writer lays them out, and the reader ends with the value on
every layout of them (`Spells`).  So nothing depends on the line breaks and the indentation that the
writer puts between the lexemes.

Numbers with a point or an exponent are left out.
-/

namespace FenceLint.Json

open Reader

/-! ## Characters -/

/-- A control character is written with the four digits of its number. -/
theorem hexPadded_control {n : Nat} (hn : n < 0x20) : (Text.hexPadded 4 n).length = 4 ∧
    (∀ c ∈ Text.hexPadded 4 n, c ∈ hexDigits) ∧ hexNumber? (Text.hexPadded 4 n) = some n := by
  have hall : (List.range 0x20).all (fun n => (Text.hexPadded 4 n).length == 4 &&
      (Text.hexPadded 4 n).all hexDigits.contains && hexNumber? (Text.hexPadded 4 n) == some n) =
      true := by decide +kernel
  have h := List.all_eq_true.1 hall n (List.mem_range.2 hn)
  simpa [and_assoc] using h

/-- The characters that are written with a backslash, and the letter after it. -/
def letterEscapes : List (Char × Char) :=
  [('"', '"'), ('\\', '\\'), ('\n', 'n'), ('\r', 'r'), ('\t', 't'), ('\x0c', 'f'), ('\x08', 'b')]

theorem letterEscapes_written : ∀ p ∈ letterEscapes,
    p.2 ∈ ['"', '\\', '/', 'b', 'f', 'n', 'r', 't'] ∧ p.2 ≠ 'u' ∧
      simpleEscape? p.2 = some p.1 ∧ Writer.char p.1 = ['\\', p.2] := by
  decide

/-- A character is written as it is, as a letter after a backslash, or by its number. -/
theorem Writer.char_cases (c : Char) :
    (c ≠ '"' ∧ c ≠ '\\' ∧ 0x20 ≤ c.toNat ∧ Writer.char c = [c]) ∨
      (∃ e ∈ ['"', '\\', '/', 'b', 'f', 'n', 'r', 't'], e ≠ 'u' ∧ simpleEscape? e = some c ∧
        Writer.char c = ['\\', e]) ∨
      (∃ w x y z, (∀ d ∈ [w, x, y, z], d ∈ hexDigits) ∧ hexNumber? [w, x, y, z] = some c.toNat ∧
        c.toNat < 0x20 ∧ Writer.char c = ['\\', 'u', w, x, y, z]) := by
  by_cases hletter : c ∈ letterEscapes.map Prod.fst
  · obtain ⟨⟨c, e⟩, hmem, rfl⟩ := List.mem_map.1 hletter
    exact .inr (.inl ⟨e, letterEscapes_written (c, e) hmem⟩)
  have hplain : c ≠ '"' ∧ c ≠ '\\' ∧ c ≠ '\n' ∧ c ≠ '\r' ∧ c ≠ '\t' ∧ c ≠ '\x0c' ∧ c ≠ '\x08' := by
    simpa [letterEscapes] using hletter
  obtain ⟨hquote, hescape, hline, hreturn, htab, hfeed, hback⟩ := hplain
  by_cases hcontrol : c.toNat < 0x20
  · obtain ⟨hlength, hhex, hnumber⟩ := hexPadded_control hcontrol
    obtain ⟨w, x, y, z, hdigits⟩ : ∃ w x y z, Text.hexPadded 4 c.toNat = [w, x, y, z] := by
      match Text.hexPadded 4 c.toNat, hlength with
      | [w, x, y, z], _ => exact ⟨w, x, y, z, rfl⟩
    rw [hdigits] at hhex hnumber
    refine .inr (.inr ⟨w, x, y, z, hhex, hnumber, hcontrol, ?_⟩)
    simp [Writer.char, hquote, hescape, hline, hreturn, htab, hfeed, hback, hcontrol, hdigits]
  · refine .inl ⟨hquote, hescape, by omega, ?_⟩
    simp [Writer.char, hquote, hescape, hline, hreturn, htab, hfeed, hback, hcontrol]

/-- A written character is part of a literal. -/
theorem LiteralBody.char_append (c : Char) {cs : List Char} (h : LiteralBody cs) :
    LiteralBody (Writer.char c ++ cs) := by
  rcases Writer.char_cases c with
    ⟨hquote, hescape, hcontrol, hc⟩ | ⟨e, he, -, -, hc⟩ | ⟨w, x, y, z, hhex, -, -, hc⟩
  · rw [hc]
    exact .plain hquote hescape hcontrol h
  · rw [hc]
    exact .escape he h
  · rw [hc]
    exact .unicode hhex h

/-- A text is written as a literal. -/
theorem literalBody_flatMap (cs : List Char) : LiteralBody (cs.flatMap Writer.char) := by
  induction cs with
  | nil => exact .nil
  | cons c cs ih =>
    rw [List.flatMap_cons]
    exact ih.char_append c

/-- A code unit that is no half of a pair is a character on its own. -/
theorem joinPieces_unit {n : Nat} (hn : n < 0xd800) (ps : List Piece) :
    joinPieces (.unit n :: ps) = Char.ofNat n :: joinPieces ps := by
  have hhigh : isHigh n = false := by simp [isHigh]; omega
  have hlow : isLow n = false := by simp [isLow]; omega
  have hunit : unitChar n = Char.ofNat n := by simp [unitChar, hhigh, hlow]
  cases ps with
  | nil => simp [joinPieces, hunit]
  | cons p ps =>
    cases p with
    | char c => simp [joinPieces, hunit]
    | unit m => simp [joinPieces, hhigh, hunit]

/-- A written character is read as a piece that stands for it. -/
theorem exists_piece (c : Char) :
    ∃ p, (∀ ps, joinPieces (p :: ps) = c :: joinPieces ps) ∧
      ∀ start d cs, pieces start (Writer.char c ++ d :: cs) =
        prepend p (pieces start (d :: cs)) := by
  rcases Writer.char_cases c with
    ⟨hquote, hescape, hcontrol, hc⟩ | ⟨e, -, hu, he, hc⟩ | ⟨w, x, y, z, -, hnumber, hcontrol, hc⟩
  · have hcontrol' : ¬ c.toNat < 0x20 := by omega
    refine ⟨.char c, fun ps => by simp [joinPieces], fun start d cs => ?_⟩
    simp [hc, pieces, hquote, hescape, hcontrol']
  · refine ⟨.char c, fun ps => by simp [joinPieces], fun start d cs => ?_⟩
    simp [hc, pieces, hu, he]
  · refine ⟨.unit c.toNat, fun ps => ?_, fun start d cs => ?_⟩
    · rw [joinPieces_unit (by omega), Char.ofNat_toNat]
    · simp [hc, pieces, hnumber]

/-- A text that was written is read back. -/
theorem string_flatMap (s : String) (start rest : List Char) :
    string start (s.toList.flatMap Writer.char ++ '"' :: rest) = .ok (s, rest) := by
  have hpieces : ∀ cs : List Char, ∃ ps, joinPieces ps = cs ∧
      pieces start (cs.flatMap Writer.char ++ '"' :: rest) = .ok (ps, rest) := by
    intro cs
    induction cs with
    | nil => exact ⟨[], rfl, by simp [pieces]⟩
    | cons c cs ih =>
      obtain ⟨ps, hjoin, hread⟩ := ih
      obtain ⟨p, hp, hpiece⟩ := exists_piece c
      refine ⟨p :: ps, by rw [hp, hjoin], ?_⟩
      -- A closing quote is still to come, so the character is not the end of the text.
      obtain ⟨d, ds, htail⟩ : ∃ d ds, cs.flatMap Writer.char ++ '"' :: rest = d :: ds :=
        List.exists_cons_of_ne_nil (by simp)
      rw [htail] at hread
      rw [List.flatMap_cons, List.append_assoc, htail, hpiece, hread]
      rfl
  obtain ⟨ps, hjoin, hread⟩ := hpieces s.toList
  have htext : String.ofList (joinPieces ps) = s := by rw [hjoin, String.ofList_toList]
  simp [string, hread, Except.map, htext]

/-! ## Numbers and words -/

/-- A whole number is written as a number of the grammar. -/
theorem wholeText_cases (n : Int) :
    (Text.signText n = [] ∨ Text.signText n = ['-']) ∧ IsWhole (Nat.toDigits 10 n.natAbs) := by
  constructor
  · rw [Text.signText]
    by_cases hn : n < 0
    · exact .inr (if_pos hn)
    · exact .inl (if_neg hn)
  · by_cases hn : n.natAbs = 0
    · rw [hn]
      exact .inl rfl
    · exact .inr ⟨⟨Nat.toDigits_ne_nil, fun c => Text.isDigit_of_mem_toDigits⟩,
        Text.head?_toDigits_ne_zero hn⟩

theorem numberText_toString (n : Int) : NumberText (toString n).toList := by
  obtain ⟨hsign, hwhole⟩ := wholeText_cases n
  have htext := NumberText.mk hsign hwhole (.inl rfl) (.inl rfl)
  rwa [List.append_nil, List.append_nil, ← Text.toList_toString_int] at htext

/-- A whole number that was written is read back, if it is not too long. -/
theorem scalar_toString {n : Int} (hn : Text.isShort n = true) {rest : List Char}
    (hrest : Delimited rest) : scalar ((toString n).toList ++ rest) = .ok (.int n, rest) := by
  have hnumber := numberText_toString n
  obtain ⟨hsign, hwhole⟩ := wholeText_cases n
  have hread := number?_append hsign hwhole hrest.noDigit
  rw [numberAfter_eq_wholeNumber _ _ hrest, wholeNumber,
    if_neg (Nat.not_lt.2 ((Text.isShort_iff n).1 hn)), Text.digitsValue_toDigits] at hread
  rw [← List.append_assoc, ← Text.toList_toString_int] at hread
  have hscalar := scalar_of_number ((BareText.number hnumber).head?_ne_quote rest)
    (hnumber.word?_append rest) hread
  dsimp only at hscalar
  rw [hscalar, Text.sign_natAbs]

/-! ## Lexemes -/

/-- A line break with its indentation is white space. -/
theorem white_newline (level : Nat) : White (Writer.newline level) := by
  intro c hc
  rcases List.mem_cons.1 hc with rfl | hc
  · decide
  · rw [List.eq_of_mem_replicate hc]
    decide

/-- A phrase may be moved to a new line. -/
theorem Derives.spaced_newline {p : Phrase} {ts : List Lexeme} {text : List Char} (h : Derives p ts)
    (htext : Spaced ts text) (level : Nat) : Spaced ts (Writer.newline level ++ text) := by
  obtain ⟨t, us, rfl, -⟩ := h.exists_cons
  exact htext.white_append (white_newline level)

/-- The lexemes spell the value: they are a phrase of the grammar, the writer writes them, and the
reader ends with the value on them. -/
structure Spells (depth : Nat) (v : Value) (ts : List Lexeme) : Prop where
  derives : Derives .value ts
  writes : ∀ level, Spaced ts (Writer.value level v)
  reads : ReadsValue depth ts (.ok v)

theorem spells_word {depth : Nat} {v : Value} {w : String} (hmem : (w, v) ∈ words)
    (htext : ∀ level, Writer.value level v = w.toList) : Spells depth v [.bare w.toList] := by
  have hbare : BareText w.toList := .word (List.mem_map_of_mem (f := Prod.fst) hmem)
  have hends : ∀ rest, Delimited rest → Ends (scalar (w.toList ++ rest)) (.ok v) rest :=
    fun rest _ => scalar_of_word (hbare.head?_ne_quote rest) (word?_append hmem rest)
  refine ⟨.bare hbare, fun level => ?_, hbare.readsValue hends depth⟩
  rw [htext]
  exact .single (.bare w.toList)

theorem spells_int {depth : Nat} {n : Int} (hn : Text.isShort n = true) :
    Spells depth (.int n) [.bare (toString n).toList] := by
  have hbare : BareText (toString n).toList := .number (numberText_toString n)
  have hends : ∀ rest, Delimited rest →
      Ends (scalar ((toString n).toList ++ rest)) (.ok (.int n)) rest :=
    fun _ hrest => scalar_toString hn hrest
  exact ⟨.bare hbare, fun _ => .single (.bare (toString n).toList), hbare.readsValue hends depth⟩

theorem spells_str (depth : Nat) (s : String) :
    Spells depth (.str s) [.literal (s.toList.flatMap Writer.char)] where
  derives := .literal (literalBody_flatMap s.toList)
  writes _ := .single (.literal (s.toList.flatMap Writer.char))
  reads := (literalBody_flatMap s.toList).readsValue (string_flatMap s) depth

/-! ## Lists -/

/-- The items of a list are spelled one after the other. -/
theorem exists_items {depth : Nat} {v : Value} {vs : List Value}
    (h : ∀ u ∈ v :: vs, ∃ ts, Spells depth u ts) :
    ∃ ts, Derives .items ts ∧
      (∀ level, Spaced ts (Writer.value level v ++ Writer.items level vs)) ∧
      ReadsItems depth ts (.ok (v :: vs)) := by
  -- The writer treats the first item apart, so the induction is on those after it.
  induction vs generalizing v with
  | nil =>
    obtain ⟨ts, hts⟩ := h v (by simp)
    refine ⟨ts, .lastItem hts.derives, fun level => ?_, hts.reads.lastItem hts.derives⟩
    rw [Writer.items, List.append_nil]
    exact hts.writes level
  | cons w vs ih =>
    obtain ⟨hv, hvs⟩ := List.forall_mem_cons.1 h
    obtain ⟨ts, hts⟩ := hv
    obtain ⟨us, hderives, hwrites, hreads⟩ := ih hvs
    refine ⟨ts ++ .comma :: us, .item hts.derives hderives, fun level => ?_,
      hts.reads.item hreads⟩
    have hrest := (hderives.spaced_newline (hwrites level) level).lexeme .comma
    simpa [Writer.items, Lexeme.text] using (hts.writes level).append hrest

/-- A list is spelled by its items between brackets. -/
theorem exists_spells_list {depth : Nat} {vs : List Value}
    (h : ∀ v ∈ vs, ∃ ts, Spells depth v ts) : ∃ ts, Spells (depth + 1) (.list vs) ts := by
  cases vs with
  | nil =>
    refine ⟨_, .emptyList, fun level => ?_, readsValue_emptyList depth⟩
    exact (Spaced.single .closeList).lexeme .openList
  | cons v vs =>
    obtain ⟨ts, hderives, hwrites, hreads⟩ := exists_items h
    refine ⟨_, .list hderives, fun level => ?_, hreads.list hderives⟩
    have hitems := hderives.spaced_newline (hwrites (level + 1)) (level + 1)
    have hclose := (Spaced.single .closeList).white_append (white_newline level)
    simpa [Writer.value, Lexeme.text] using (hitems.append hclose).lexeme .openList

/-! ## Objects -/

/-- A key that is not there yet is put at the end. -/
theorem Fields.put_of_notMem {key : String} {value : Value} {fields : Fields}
    (h : key ∉ fields.map Prod.fst) : Fields.put key value fields = fields ++ [(key, value)] := by
  induction fields with
  | nil => rfl
  | cons f fields ih =>
    obtain ⟨k, v⟩ := f
    have hkey : (k == key) = false := by
      simp only [List.map_cons, List.mem_cons, not_or] at h
      simpa using fun hk => h.1 hk.symm
    rw [Fields.put, hkey, if_neg (by simp), ih fun hmem => h (List.mem_cons_of_mem _ hmem)]
    rfl

/-- Fields with different keys are put one after the other. -/
theorem Fields.foldl_put {fields added : Fields} (h : ((fields ++ added).map Prod.fst).Nodup) :
    added.foldl (fun fs f => Fields.put f.1 f.2 fs) fields = fields ++ added := by
  induction added generalizing fields with
  | nil => simp
  | cons f added ih =>
    obtain ⟨k, v⟩ := f
    have hkey : k ∉ fields.map Prod.fst := by
      intro hmem
      rw [List.map_append, List.nodup_append] at h
      exact h.2.2 k hmem k (by simp) rfl
    rw [List.foldl_cons, Fields.put_of_notMem hkey, ih (by simpa using h), List.append_assoc]
    rfl

/-- A key and its value are written on one line, and then what follows. -/
theorem Spells.spaced_member {depth : Nat} {v : Value} {ts us : List Lexeme} {text : List Char}
    (hts : Spells depth v ts) (htext : Spaced us text) (k : String) (level : Nat) :
    Spaced (.literal (k.toList.flatMap Writer.char) :: .colon :: (ts ++ us))
      (Writer.string k ++ ([':', ' '] ++ (Writer.value level v ++ text))) := by
  have hspace : White [' '] := by simp [White, whiteChars]
  obtain ⟨t, ts, rfl, -⟩ := hts.derives.exists_cons
  have hvalue := ((hts.writes level).append htext).white_append hspace
  simpa [Writer.string, Lexeme.text] using
    (hvalue.lexeme .colon).lexeme (.literal (k.toList.flatMap Writer.char))

/-- The members of an object are spelled one after the other.  They are put behind the fields that
are there already. -/
theorem exists_members {depth : Nat} {k : String} {v : Value} {fs : Fields}
    (h : ∀ f ∈ (k, v) :: fs, ∃ ts, Spells depth f.2 ts) :
    ∃ ts, Derives .members ts ∧
      (∀ level, Spaced ts (Writer.string k ++ ([':', ' '] ++ (Writer.value level v ++
        Writer.members level fs)))) ∧
      ∀ fields, ReadsMembers depth fields ts
        (.ok (((k, v) :: fs).foldl (fun fs f => Fields.put f.1 f.2 fs) fields)) := by
  induction fs generalizing k v with
  | nil =>
    obtain ⟨ts, hts⟩ := h (k, v) (by simp)
    have hkey := literalBody_flatMap k.toList
    refine ⟨_, .lastMember hkey hts.derives, fun level => ?_, fun fields => ?_⟩
    · simpa [Writer.members] using hts.spaced_member .nil k level
    · exact (hts.reads.member hkey (string_flatMap k)).lastMember (by simp) fields
  | cons f fs ih =>
    obtain ⟨hv, hfs⟩ := List.forall_mem_cons.1 h
    obtain ⟨ts, hts⟩ := hv
    obtain ⟨us, hderives, hwrites, hreads⟩ := ih hfs
    have hkey := literalBody_flatMap k.toList
    refine ⟨_, .member hkey hts.derives hderives, fun level => ?_, fun fields => ?_⟩
    · have hrest := (hderives.spaced_newline (hwrites level) level).lexeme .comma
      simpa [Writer.members, Lexeme.text] using hts.spaced_member hrest k level
    · exact (hts.reads.member hkey (string_flatMap k)).member hreads fields

/-- An object with different keys is spelled by its members between braces. -/
theorem exists_spells_object {depth : Nat} {fs : Fields} (hkeys : (fs.map Prod.fst).Nodup)
    (h : ∀ f ∈ fs, ∃ ts, Spells depth f.2 ts) : ∃ ts, Spells (depth + 1) (.object fs) ts := by
  cases fs with
  | nil =>
    refine ⟨_, .emptyObject, fun level => ?_, readsValue_emptyObject depth⟩
    exact (Spaced.single .closeObject).lexeme .openObject
  | cons f fs =>
    obtain ⟨k, v⟩ := f
    obtain ⟨ts, hderives, hwrites, hreads⟩ := exists_members h
    -- No key stands twice, so putting the members one by one gives the fields in their order.
    have hfields := @Fields.foldl_put [] ((k, v) :: fs) hkeys
    have hreads := hreads []
    rw [hfields] at hreads
    refine ⟨_, .object hderives, fun level => ?_, hreads.object hderives⟩
    have hmembers := hderives.spaced_newline (hwrites (level + 1)) (level + 1)
    have hclose := (Spaced.single .closeObject).white_append (white_newline level)
    simpa [Writer.value, Lexeme.text] using (hmembers.append hclose).lexeme .openObject

end FenceLint.Json
