import FenceLint.Proofs.Discover.Basic

/-!
# Directories that are always ignored

The patterns for `node_modules` and `.git` stand in front of the patterns of the root's own ignore
file, and the last pattern that matches decides.  So what lies below `node_modules` is left out
unless the ignore file of the root takes it in again, and then it is found
(`mem_discover_below_node_modules`).  One negated pattern is enough (`node_modules_found`).

A pattern for a directory matches what lies below it at every depth, as long as the names on the way
there are plain: a line feed stops the match, and a backslash counts as a slash.
-/

namespace FenceLint

namespace Ignore

/-! ## The last pattern that matches -/

namespace Patterns

/-- The last pattern that matches the path takes it in again. -/
def readmits (ps : Patterns) (path : List Char) : Bool :=
  match ps.reverse.find? fun p => p.isMatch (normalize path) with
  | some p => p.negated
  | none => false

variable {ps qs : Patterns} {path : List Char}

/-- Patterns without a negated one select what one of them matches. -/
theorem selects_of_isMatch (hps : ∀ p ∈ ps, p.negated = false) {p : Pattern} (hp : p ∈ ps)
    (hmatch : p.isMatch (normalize path) = true) : ps.selects path = true := by
  unfold selects
  cases hfind : ps.reverse.find? fun p => p.isMatch (normalize path) with
  | none =>
    rw [List.find?_eq_none] at hfind
    exact absurd hmatch (hfind p (List.mem_reverse.mpr hp))
  | some q =>
    have hq : q ∈ ps := List.mem_reverse.mp (List.mem_of_find?_eq_some hfind)
    simp [hps q hq]

/-- What is selected stays so, unless patterns behind take it in again. -/
theorem selects_append_of_selects (hps : ps.selects path = true) :
    (ps ++ qs).selects path = !qs.readmits path := by
  unfold selects at hps ⊢
  unfold readmits
  rw [List.reverse_append, List.find?_append]
  cases qs.reverse.find? fun p => p.isMatch (normalize path) with
  | none => exact hps
  | some q => rfl

end Patterns

/-! ## Patterns for directories -/

/-- Characters match themselves. -/
theorem matchesStart_chars (name : List Char) (as : List Atom) (cs : List Char) :
    matchesStart (name.map Atom.char ++ as) (name ++ cs) = matchesStart as cs := by
  induction name with
  | nil => rfl
  | cons c name ih =>
    rw [List.map_cons, List.cons_append, List.cons_append, matchesStart]
    simp [Atom.rests, ih]

/-- Any number of characters of a class, one at least, may be taken off the front. -/
theorem mem_restsAfter_append {p : Char → Bool} {pre rest : List Char} (hne : pre ≠ [])
    (hpre : ∀ c ∈ pre, p c = true) : rest ∈ restsAfter p (pre ++ rest) := by
  induction pre with
  | nil => exact absurd rfl hne
  | cons c pre ih =>
    rw [List.cons_append, restsAfter, if_pos (hpre c List.mem_cons_self)]
    cases pre with
    | nil => exact List.mem_cons_self
    | cons d pre =>
      refine List.mem_cons_of_mem _ (ih (by simp) ?_)
      intro c' hc'
      exact hpre c' (List.mem_cons_of_mem c hc')

/-- A pattern for a directory matches what lies below it. -/
theorem isMatch_directoryPattern (name : String) (rest : List Char) :
    (Filter.directoryPattern name).isMatch (name.toList ++ '/' :: rest) = true := by
  rw [Pattern.isMatch, Filter.directoryPattern, matchesStart, List.any_eq_true]
  refine ⟨_, List.mem_cons_self, ?_⟩
  rw [matchesStart_chars]
  simp [matchesStart, Atom.rests]

/-- A pattern for a directory matches what lies below it in other directories. -/
theorem isMatch_directoryPattern_below (name : String) (rest : List Char) {pre : List Char}
    (hne : pre ≠ []) (hpre : '\n' ∉ pre) :
    (Filter.directoryPattern name).isMatch (pre ++ '/' :: (name.toList ++ '/' :: rest)) = true := by
  rw [Pattern.isMatch, Filter.directoryPattern, matchesStart, List.any_eq_true]
  refine ⟨name.toList ++ '/' :: rest, ?_, ?_⟩
  · refine List.mem_cons_of_mem _ (List.mem_filterMap.mpr ⟨_, mem_restsAfter_append hne ?_, rfl⟩)
    intro c hc
    simpa using fun h : c = '\n' => hpre (h ▸ hc)
  · rw [matchesStart_chars]
    simp [matchesStart, Atom.rests]

end Ignore

/-! ## The text of a path -/

namespace Path

/-- A name that stands for itself in the text of a path, on one line. -/
def IsPlain (name : String) : Prop :=
  name ≠ "" ∧ ∀ c ∈ name.toList, c ≠ '/' ∧ c ≠ '\\' ∧ c ≠ '\n'

-- The characters of the name are tried one by one, not all that there are.
instance (name : String) : Decidable (IsPlain name) :=
  @instDecidableAnd _ _ inferInstance (List.decidableBAll _ name.toList)

/-- The text of one name. -/
theorem matchText_singleton (name : String) :
    matchText [name] = name.toList.map fun c => if c == '\\' then '/' else c := by
  simp [matchText, partsText]

/-- The text of a name with more names behind it. -/
theorem matchText_cons (name : String) {rest : List String} (hrest : rest ≠ []) :
    matchText (name :: rest) = matchText [name] ++ '/' :: matchText rest := by
  have hempty : rest.isEmpty = false := by simpa using hrest
  simp [matchText, partsText, hempty, String.intercalate_cons_of_ne_nil hrest]

/-- The text of names with more names behind them. -/
theorem matchText_append {names rest : List String} (hnames : names ≠ []) (hrest : rest ≠ []) :
    matchText (names ++ rest) = matchText names ++ '/' :: matchText rest := by
  induction names with
  | nil => exact absurd rfl hnames
  | cons name names ih =>
    by_cases hlast : names = []
    · subst hlast
      exact matchText_cons name hrest
    · rw [List.cons_append, matchText_cons name (by simp [hlast]), matchText_cons name hlast,
        ih hlast, List.append_assoc, List.cons_append]

/-- The text of plain names is on one line. -/
theorem newline_not_mem_matchText {names : List String} (hnames : names ≠ [])
    (hplain : ∀ name ∈ names, IsPlain name) : '\n' ∉ matchText names := by
  have hone : ∀ name, IsPlain name → '\n' ∉ matchText [name] := by
    intro name h hmem
    rw [matchText_singleton, List.mem_map] at hmem
    obtain ⟨c, hc, heq⟩ := hmem
    by_cases hslash : (c == '\\') = true
    · simp [hslash] at heq
    · rw [if_neg hslash] at heq
      exact (h.2 c hc).2.2 heq
  induction names with
  | nil => exact absurd rfl hnames
  | cons name names ih =>
    have hname := hone name (hplain name List.mem_cons_self)
    by_cases hlast : names = []
    · subst hlast
      exact hname
    · rw [matchText_cons name hlast, List.mem_append, List.mem_cons]
      rintro (h | h | h)
      · exact hname h
      · exact absurd h (by decide)
      · exact ih hlast (fun name' h' => hplain name' (List.mem_cons_of_mem name h')) h

/-- The text of a path starts as its first name does, if that is plain. -/
theorem exists_matchText_eq_cons {name : String} (hplain : IsPlain name) (rest : List String) :
    ∃ c tail, name.toList.head? = some c ∧ c ≠ '/' ∧ matchText (name :: rest) = c :: tail := by
  cases hname : name.toList with
  | nil => exact absurd (String.toList_eq_nil_iff.mp hname) hplain.1
  | cons c cs =>
    have hc := hplain.2 c (by simp [hname])
    have hfirst : matchText [name] = c :: cs.map fun c => if c == '\\' then '/' else c := by
      rw [matchText_singleton, hname, List.map_cons, if_neg (by simpa using hc.2.1)]
    by_cases hrest : rest = []
    · subst hrest
      exact ⟨c, _, rfl, hc.1, hfirst⟩
    · rw [matchText_cons name hrest, hfirst]
      exact ⟨c, _, rfl, hc.1, rfl⟩

/-- Nothing is cut off the text of a path whose first name is plain and not hidden. -/
theorem normalize_matchText {name : String} (hplain : IsPlain name)
    (hhidden : name.toList.head? ≠ some '.') (rest : List String) :
    Ignore.Patterns.normalize (matchText (name :: rest)) = matchText (name :: rest) := by
  obtain ⟨c, tail, hhead, hslash, htext⟩ := exists_matchText_eq_cons hplain rest
  have hdot : c ≠ '.' := by
    rintro rfl
    exact hhidden hhead
  rw [htext]
  unfold Ignore.Patterns.normalize
  split
  · next heq => exact absurd (List.cons_eq_cons.mp heq).1 hslash
  · next heq => exact absurd (List.cons_eq_cons.mp heq).1 hdot
  · rfl

end Path

/-! ## What lies below an ignored directory -/

section Below

variable {above below : List String}

/-- The patterns that are always there select what lies below `node_modules`. -/
theorem Filter.selects_alwaysPatterns (hplain : ∀ name ∈ above, Path.IsPlain name)
    (hbelow : below ≠ [])
    (hhidden : Discover.isHidden (above ++ "node_modules" :: below) = false) :
    alwaysPatterns.selects (Path.matchText (above ++ "node_modules" :: below)) = true := by
  have htext : Path.matchText ("node_modules" :: below) =
      "node_modules".toList ++ '/' :: Path.matchText below := by
    rw [Path.matchText_cons _ hbelow]
    rfl
  apply Ignore.Patterns.selects_of_isMatch (p := directoryPattern "node_modules") (by decide)
    List.mem_cons_self
  cases above with
  | nil =>
    rw [List.nil_append, Path.normalize_matchText (by decide) (by decide), htext]
    exact Ignore.isMatch_directoryPattern "node_modules" _
  | cons name names =>
    have hname := hplain name List.mem_cons_self
    have hfirst : name.toList.head? ≠ some '.' := by
      simpa using List.any_eq_false.mp hhidden name (by simp)
    rw [List.cons_append, Path.normalize_matchText hname hfirst, ← List.cons_append,
      Path.matchText_append (by simp) (by simp), htext]
    apply Ignore.isMatch_directoryPattern_below
    · obtain ⟨c, tail, -, -, hcons⟩ := Path.exists_matchText_eq_cons hname names
      simp [hcons]
    · exact Path.newline_not_mem_matchText (by simp) hplain

/-- An entry below `node_modules` is wanted when the ignore file of the root takes it in again, and
nothing else speaks against it. -/
theorem Discover.wanted_below_node_modules {includes own : Ignore.Patterns} {filter : Filter}
    (hroot : filter.rootPatterns = Filter.alwaysPatterns ++ own)
    (hplain : ∀ name ∈ above, Path.IsPlain name) (hbelow : below ≠ []) {e : Entry}
    (he : e.parts = above ++ "node_modules" :: below) :
    wanted includes filter e =
      (own.readmits (Path.matchText e.parts) &&
        wanted includes { filter with rootPatterns := [] } e) := by
  unfold wanted
  cases hhidden : isHidden e.parts with
  | true => simp
  | false =>
    have halways : Filter.alwaysPatterns.selects (Path.matchText e.parts) = true := by
      rw [he] at hhidden ⊢
      exact Filter.selects_alwaysPatterns hplain hbelow hhidden
    have hnone : Ignore.Patterns.selects [] (Path.matchText e.parts) = false := rfl
    simp only [Filter.ignoresParts, hroot, Ignore.Matcher.selects_patterns,
      Ignore.Patterns.selects_append_of_selects halways, hnone]
    cases own.readmits (Path.matchText e.parts) <;> simp

end Below

/-- What lies below `node_modules`, at any depth, is found exactly when the last pattern of the
root's own ignore file that matches it is a negated one, and it would be found if there were no
patterns at the root at all.  The names above `node_modules` have to be plain. -/
theorem mem_discover_below_node_modules (t : Tree) (root : Path) (patterns : List String)
    (files : List (List String)) (hfiles : (discover t root patterns none).result = .ok files) :
    let entries := Discover.listing t root.resolve
    ∃ includes filter own, Discover.includesOf patterns = .ok includes ∧
      Filter.load t root.resolve (entries.map (·.parts)) = .ok filter ∧
      Filter.ownPatterns t root.resolve = .ok own ∧
      ∀ above below, (∀ name ∈ above, Path.IsPlain name) → below ≠ [] →
        let parts := above ++ "node_modules" :: below
        (parts ∈ files ↔ own.readmits (Path.matchText parts) = true ∧
          parts ∈ Discover.select includes { filter with rootPatterns := [] } entries) := by
  intro entries
  obtain ⟨includes, filter, hincludes, hfilter, rfl⟩ := exists_of_result_discover hfiles
  obtain ⟨own, nested, hown, -, heq⟩ := Filter.exists_of_load hfilter
  have hroot : filter.rootPatterns = Filter.alwaysPatterns ++ own := by rw [heq]
  refine ⟨includes, filter, own, hincludes, hfilter, hown, ?_⟩
  intro above below hplain hbelow parts
  have hwanted : ∀ e : Entry, e.parts = parts → Discover.wanted includes filter e =
      (own.readmits (Path.matchText parts) &&
        Discover.wanted includes { filter with rootPatterns := [] } e) := by
    intro e he
    rw [Discover.wanted_below_node_modules hroot hplain hbelow he, he]
  rw [Discover.mem_select, Discover.mem_select]
  constructor
  · rintro ⟨e, he, hw, hparts⟩
    rw [hwanted e hparts, Bool.and_eq_true] at hw
    exact ⟨hw.1, e, he, hw.2, hparts⟩
  · rintro ⟨hreadmits, e, he, hw, hparts⟩
    refine ⟨e, he, ?_, hparts⟩
    rw [hwanted e hparts, hreadmits, hw]
    rfl

/-- An ignore file that takes in one `node_modules` of two: only what lies below that one is found.
-/
theorem mem_discover_below_one_node_modules :
    let t : Tree := ⟨"/docs", [⟨[".gitignore"], .file "!a/node_modules/\n".toUTF8.toList⟩,
      ⟨["a"], .directory⟩, ⟨["node_modules"], .directory⟩, ⟨["a", "node_modules"], .directory⟩,
      ⟨["node_modules", "b.md"], .file []⟩, ⟨["a", "node_modules", "c.md"], .file []⟩]⟩
    ∃ files, (discover t .top [] none).result = .ok files ∧
      ["a", "node_modules", "c.md"] ∈ files ∧ ["node_modules", "b.md"] ∉ files := by
  intro t
  have hown : Filter.ownPatterns t .top =
      .ok [⟨true, "a/node_modules/".toList.map Ignore.Atom.char⟩] :=
    eq_ok_of_toOption (by decide +kernel)
  have hentries : Discover.listing t (Path.resolve .top) = t.entries :=
    Discover.listing_top rfl (by simp [t]) (by simp [t])
  have hfilter : Filter.load t .top (t.entries.map (·.parts)) = _ :=
    Filter.load_eq hown (eq_ok_of_toOption (a := List.replicate 6 none) (by decide +kernel))
  have hfiles := result_discover_of_load rfl hentries Discover.includesOf_nil hfilter
  obtain ⟨includes, filter, own, hincludes, hload, hown', hmem⟩ :=
    mem_discover_below_node_modules t .top [] _ hfiles
  rw [hentries] at hload hmem
  obtain rfl := Except.ok.inj (hown.symm.trans hown')
  obtain rfl := Except.ok.inj (hfilter.symm.trans hload)
  obtain rfl := Except.ok.inj (Discover.includesOf_nil.symm.trans hincludes)
  refine ⟨_, hfiles, ?_, ?_⟩
  · apply (hmem ["a"] ["c.md"] (by decide) (by decide)).mpr
    refine ⟨by decide +kernel, Discover.mem_select.mpr ?_⟩
    exact ⟨⟨["a", "node_modules", "c.md"], .file []⟩, by simp [t], by decide +kernel, rfl⟩
  · intro hfound
    have hreadmits := ((hmem [] ["b.md"] (by decide) (by decide)).mp hfound).1
    exact absurd hreadmits (by decide +kernel)

/-- The directory is not always ignored: an ignore file with one negated pattern brings it back. -/
theorem node_modules_found :
    let t : Tree := ⟨"/docs", [⟨[".gitignore"], .file "!node_modules/\n".toUTF8.toList⟩,
      ⟨["node_modules"], .directory⟩, ⟨["node_modules", "a.md"], .file []⟩]⟩
    ∃ files, (discover t .top [] none).result = .ok files ∧ ["node_modules", "a.md"] ∈ files := by
  intro t
  have hown : Filter.ownPatterns t .top =
      .ok [{ Filter.directoryPattern "node_modules" with negated := true }] :=
    eq_ok_of_toOption (by decide +kernel)
  have hfilter : Filter.load t .top (t.entries.map (·.parts)) = _ :=
    Filter.load_eq hown (eq_ok_of_toOption (a := List.replicate 3 none) (by decide +kernel))
  have hentries : Discover.listing t (Path.resolve .top) = t.entries :=
    Discover.listing_top rfl (by simp [t]) (by simp [t])
  refine ⟨_, result_discover_of_load rfl hentries Discover.includesOf_nil hfilter, ?_⟩
  exact Discover.mem_select.mpr
    ⟨⟨["node_modules", "a.md"], .file []⟩, by simp [t], by decide +kernel, rfl⟩

end FenceLint
