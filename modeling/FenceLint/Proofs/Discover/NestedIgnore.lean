import FenceLint.Proofs.Discover.Basic

/-!
# Ignore files below the root

An ignore file in a directory below the root is for what lies in that directory.  It is read
together with the others before the search, and passed over if the patterns of the root ignore the
ignore file itself: `Filter.mem_nested_iff` says exactly which ignore files a filter holds.

An ignore file that is read leaves out whatever its patterns select.  One that is passed over leaves
out nothing, also where the patterns of the root have nothing to say about the files beside it.  So
what the ignore file of a directory selects is found exactly if the root ignores that ignore file
and nothing else speaks against it (`mem_discover_below_ignore_file`).  A pattern of the root for
hidden names is enough (`ignored_draft_found`).
-/

namespace FenceLint

/-! ## The ignore files of a filter -/

namespace Filter

variable {P : Type} [Ignore.Matcher P]

/-- The patterns of the ignore file in a directory below the root. -/
def patternsIn (t : Tree) (root : Path) (directory : List String) : Except Failure P :=
  (t.readText { root with parts := root.parts ++ (directory ++ [fileName]) }).bind fun text =>
    parsePatterns (Text.linesOf text)

/-- An ignore file below the root gives its patterns with its directory, unless the patterns of the
root select it. -/
theorem loadNested_ignoreFile (t : Tree) (root : Path) (ps : P)
    {directory : List String} (hdirectory : directory ≠ []) :
    loadNested t root ps (directory ++ [fileName]) =
      if Ignore.Matcher.selects ps (Path.matchText (directory ++ [fileName])) then .ok none
      else (patternsIn t root directory).map fun own => some (directory, own) := by
  have hlast : (directory ++ [fileName]).getLast? = some fileName := List.getLast?_concat
  have hlength : ¬ (directory ++ [fileName]).length ≤ 1 := by
    have := List.length_pos_iff.mpr hdirectory
    rw [List.length_append, List.length_singleton]
    omega
  unfold loadNested patternsIn
  simp only [hlast, hlength, List.dropLast_concat, bne_self_eq_false, decide_false, Bool.false_or]
  cases t.readText { root with parts := root.parts ++ (directory ++ [fileName]) } with
  | error e => rfl
  | ok text => rfl

/-- Only ignore files in directories below the root give patterns. -/
theorem eq_of_loadNested {t : Tree} {root : Path} {ps own : P} {parts directory : List String}
    (h : loadNested t root ps parts = .ok (some (directory, own))) :
    directory ≠ [] ∧ parts = directory ++ [fileName] := by
  unfold loadNested at h
  split at h
  · simp at h
  · next hread =>
    obtain ⟨text, -, h⟩ := exists_of_bind_eq_ok h
    obtain ⟨found, -, h⟩ := exists_of_map_eq_ok h
    obtain ⟨rfl, -⟩ := Prod.mk.inj (Option.some.inj h)
    simp only [Bool.or_eq_true, not_or, bne_iff_ne, ne_eq, Decidable.not_not,
      decide_eq_true_eq] at hread
    obtain ⟨⟨hlast, hlength⟩, -⟩ := hread
    obtain ⟨names, rfl⟩ := List.getLast?_eq_some_iff.mp hlast
    rw [List.dropLast_concat]
    refine ⟨?_, rfl⟩
    rintro rfl
    exact hlength (Nat.le_refl 1)

/-- A filter holds the patterns of the ignore files below the root that the patterns of the root do
not select, each with its directory, and nothing else. -/
theorem mem_nested_iff {t : Tree} {root : Path} {listing : List (List String)} {f : Filter P}
    (h : load t root listing = .ok f) (directory : List String) (own : P) :
    (directory, own) ∈ f.nested ↔
      directory ≠ [] ∧ directory ++ [fileName] ∈ listing ∧
        Ignore.Matcher.selects f.rootPatterns (Path.matchText (directory ++ [fileName])) = false ∧
        patternsIn t root directory = .ok own := by
  obtain ⟨ps, nested, -, hnested, rfl⟩ := exists_loadRoot_of_load h
  have hmem : (directory, own) ∈ nested.filterMap id ↔
      ∃ parts ∈ listing, loadNested t root ps parts = .ok (some (directory, own)) := by
    rw [List.mem_filterMap, ← mem_iff_of_mapM_eq_ok hnested]
    exact ⟨fun ⟨entry, hentry, heq⟩ => heq ▸ hentry, fun hentry => ⟨_, hentry, rfl⟩⟩
  rw [hmem]
  constructor
  · rintro ⟨parts, hparts, hload⟩
    obtain ⟨hdirectory, rfl⟩ := eq_of_loadNested hload
    rw [loadNested_ignoreFile t root _ hdirectory] at hload
    split at hload
    · simp at hload
    · next hselects =>
      obtain ⟨found, hfound, heq⟩ := exists_of_map_eq_ok hload
      obtain rfl : found = own := (Prod.mk.inj (Option.some.inj heq)).2
      exact ⟨hdirectory, hparts, by simpa using hselects, hfound⟩
  · rintro ⟨hdirectory, hparts, hselects, hown⟩
    refine ⟨_, hparts, ?_⟩
    rw [loadNested_ignoreFile t root _ hdirectory, hselects, hown]
    rfl

/-- The filter without the ignore file of a directory. -/
def without (f : Filter P) (directory : List String) : Filter P :=
  { f with nested := f.nested.filter fun entry => entry.1 != directory }

omit [Ignore.Matcher P] in
/-- An ignore file that is not there need not be taken away. -/
theorem without_eq_self {f : Filter P} {directory : List String}
    (h : ∀ own, (directory, own) ∉ f.nested) : f.without directory = f := by
  have hnested : (f.nested.filter fun entry => entry.1 != directory) = f.nested := by
    rw [List.filter_eq_self]
    rintro ⟨other, own⟩ hmem
    exact bne_iff_ne.mpr fun heq => h own (heq ▸ hmem)
  rw [without, hnested]

/-- A filter leaves out what the ignore file of a directory selects in it. -/
theorem ignoresParts_of_mem_nested {f : Filter P} {directory below : List String} {own : P}
    (hmem : (directory, own) ∈ f.nested)
    (hselects : Ignore.Matcher.selects own (Path.matchText below) = true) :
    f.ignoresParts (directory ++ below) = true := by
  unfold ignoresParts
  rw [Bool.or_eq_true, List.any_eq_true]
  refine Or.inr ⟨_, hmem, ?_⟩
  simp [hselects]

end Filter

/-! ## What an ignore file selects in its directory -/

/-- What the ignore file of a directory below the root selects in that directory is found exactly
when the patterns of the root select the ignore file itself, and it would be found if the ignore
file were not there. -/
theorem mem_discover_below_ignore_file (t : Tree) (root : Path) (patterns : List String)
    (files : List (List String)) (hfiles : (discover t root patterns none).result = .ok files) :
    let entries := Discover.listing t root.resolve
    ∃ includes filter, Discover.includesOf patterns = .ok includes ∧
      Filter.load t root.resolve (entries.map (·.parts)) = .ok filter ∧
      ∀ directory own, directory ≠ [] →
        directory ++ [Filter.fileName] ∈ entries.map (·.parts) →
        Filter.patternsIn t root.resolve directory = .ok own →
        ∀ below, own.selects (Path.matchText below) = true →
          (directory ++ below ∈ files ↔
            filter.rootPatterns.selects (Path.matchText (directory ++ [Filter.fileName])) = true ∧
              directory ++ below ∈
                Discover.select includes (filter.without directory) entries) := by
  intro entries
  obtain ⟨includes, filter, hincludes, hfilter, rfl⟩ := exists_of_result_discover hfiles
  refine ⟨includes, filter, hincludes, hfilter, ?_⟩
  intro directory own hdirectory hentry hown below hselects
  cases hroot : filter.rootPatterns.selects (Path.matchText (directory ++ [Filter.fileName])) with
  | true =>
    -- The ignore file is passed over, so the filter does not know it.
    have hunknown : ∀ own, (directory, own) ∉ filter.nested := by
      intro own hmem
      have hread := (Filter.mem_nested_iff hfilter directory own).mp hmem
      simp [hroot] at hread
    rw [Filter.without_eq_self hunknown]
    exact ⟨fun hfound => ⟨rfl, hfound⟩, fun hfound => hfound.2⟩
  | false =>
    have hmem := (Filter.mem_nested_iff hfilter directory own).mpr
      ⟨hdirectory, hentry, hroot, hown⟩
    have hignores := Filter.ignoresParts_of_mem_nested hmem hselects
    constructor
    · intro hfound
      obtain ⟨e, -, hwanted, heq⟩ := Discover.mem_select.mp hfound
      unfold Discover.wanted at hwanted
      rw [heq, hignores] at hwanted
      simp at hwanted
    · rintro ⟨hfalse, -⟩
      exact absurd hfalse (by decide)

/-- Two directories with the same ignore file, one of which the root ignores: what it selects is
found in the one directory and not in the other. -/
theorem mem_discover_below_one_ignore_file :
    let t : Tree := ⟨"/docs", [⟨[".gitignore"], .file "/a/.gitignore\n".toUTF8.toList⟩,
      ⟨["a"], .directory⟩, ⟨["b"], .directory⟩,
      ⟨["a", ".gitignore"], .file "x.md\n".toUTF8.toList⟩, ⟨["a", "x.md"], .file []⟩,
      ⟨["b", ".gitignore"], .file "x.md\n".toUTF8.toList⟩, ⟨["b", "x.md"], .file []⟩]⟩
    ∃ files, (discover t .top [] none).result = .ok files ∧
      ["a", "x.md"] ∈ files ∧ ["b", "x.md"] ∉ files := by
  intro t
  let own : Ignore.Patterns := [Filter.namePattern "x.md"]
  have hroot : Filter.ownPatterns t .top =
      .ok [⟨false, "a/.gitignore".toList.map Ignore.Atom.char ++ [.nameEnd]⟩] :=
    eq_ok_of_toOption (by decide +kernel)
  have hentries : Discover.listing t (Path.resolve .top) = t.entries :=
    Discover.listing_top rfl (by simp [t]) (by simp [t])
  have hfilter : Filter.load t .top (t.entries.map (·.parts)) = _ :=
    Filter.load_eq hroot (eq_ok_of_toOption
      (a := [none, none, none, none, none, some (["b"], own), none]) (by decide +kernel))
  have hfiles := result_discover_of_load rfl hentries Discover.includesOf_nil hfilter
  obtain ⟨includes, filter, hincludes, hload, hmem⟩ :=
    mem_discover_below_ignore_file t .top [] _ hfiles
  rw [hentries] at hload hmem
  obtain rfl := Except.ok.inj (hfilter.symm.trans hload)
  obtain rfl := Except.ok.inj (Discover.includesOf_nil.symm.trans hincludes)
  have hown : ∀ directory ∈ [["a"], ["b"]], Filter.patternsIn t .top directory = .ok own := by
    intro directory hdirectory
    apply eq_ok_of_toOption
    revert directory
    decide +kernel
  refine ⟨_, hfiles, ?_, ?_⟩
  · apply (hmem ["a"] own (by decide) (by simp [t, Filter.fileName]) (hown _ (by simp)) ["x.md"]
      (by decide +kernel)).mpr
    refine ⟨by decide +kernel, Discover.mem_select.mpr ?_⟩
    exact ⟨⟨["a", "x.md"], .file []⟩, by simp [t], by decide +kernel, rfl⟩
  · intro hfound
    have hselects := ((hmem ["b"] own (by decide) (by simp [t, Filter.fileName])
      (hown _ (by simp)) ["x.md"] (by decide +kernel)).mp hfound).1
    exact absurd hselects (by decide +kernel)

/-- The ignore file of a directory does not always apply there: a pattern of the root for hidden
names is enough to pass it over, and a file that it selects is found. -/
theorem ignored_draft_found :
    let t : Tree := ⟨"/docs", [⟨[".gitignore"], .file ".*\n".toUTF8.toList⟩,
      ⟨["docs"], .directory⟩, ⟨["docs", ".gitignore"], .file "draft.md\n".toUTF8.toList⟩,
      ⟨["docs", "draft.md"], .file []⟩]⟩
    (∃ own, Filter.patternsIn t .top ["docs"] = .ok own ∧
        own.selects (Path.matchText ["draft.md"]) = true) ∧
      ∃ files, (discover t .top [] none).result = .ok files ∧ ["docs", "draft.md"] ∈ files := by
  intro t
  have hown : Filter.patternsIn t .top ["docs"] = .ok [Filter.namePattern "draft.md"] :=
    eq_ok_of_toOption (by decide +kernel)
  have hroot : Filter.ownPatterns t .top =
      .ok [⟨false, [.directories, .char '.', .run 0, .nameEnd]⟩] :=
    eq_ok_of_toOption (by decide +kernel)
  have hentries : Discover.listing t (Path.resolve .top) = t.entries :=
    Discover.listing_top rfl (by simp [t]) (by simp [t])
  have hfilter : Filter.load t .top (t.entries.map (·.parts)) = _ :=
    Filter.load_eq hroot (eq_ok_of_toOption (a := List.replicate 4 none) (by decide +kernel))
  refine ⟨⟨_, hown, by decide +kernel⟩, _,
    result_discover_of_load rfl hentries Discover.includesOf_nil hfilter, ?_⟩
  exact Discover.mem_select.mpr
    ⟨⟨["docs", "draft.md"], .file []⟩, by simp [t], by decide +kernel, rfl⟩

end FenceLint
