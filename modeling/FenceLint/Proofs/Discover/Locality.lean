import FenceLint.Proofs.Discover.NestedIgnore
import FenceLint.Proofs.Discover.Order
import FenceLint.Proofs.Tree.Changed

/-!
# What an ignore file can change

Two searches side by side: one of a tree, and one of the same tree with an ignore file added in a
directory below the root, or with other content in the ignore file that is there.

The two searches choose from the same files, since an ignore file is hidden and never found itself
(`Discover.select_listing_withIgnoreFile`).  They read the same patterns at the root and in all
other directories, so their filters differ at most in what they know of the one directory
(`Filter.ignoresParts_without_of_load`).  That matters for names below the directory only, and it
only leaves out more.  Hence nothing changes outside the directory, and a new ignore file does not
make anything appear (`discover_withIgnoreFile`).

Nothing here looks into a pattern: all of it holds whatever the lines of ignore files are read as,
and whatever that selects.
-/

namespace FenceLint

variable {P : Type} [Ignore.Matcher P]

/-! ## Filters that differ in one directory -/

namespace Filter

variable {f f' : Filter P} {directory parts : List String}

/-- What a filter leaves out depends on the ignore files that it knows, not on their order. -/
theorem ignoresParts_congr (hroot : f'.rootPatterns = f.rootPatterns)
    (hnested : ∀ entry, entry ∈ f'.nested ↔ entry ∈ f.nested) :
    f'.ignoresParts = f.ignoresParts := by
  funext parts
  rw [ignoresParts, ignoresParts, hroot]
  congr 1
  rw [Bool.eq_iff_iff, List.any_eq_true, List.any_eq_true]
  simp only [hnested]

/-- The ignore file of a directory has no say outside of it. -/
theorem ignoresParts_without (h : directory.isPrefixOf parts = false) :
    (f.without directory).ignoresParts parts = f.ignoresParts parts := by
  rw [ignoresParts, ignoresParts, without, List.any_filter]
  congr 2
  funext entry
  obtain ⟨other, own⟩ := entry
  by_cases hother : other = directory
  · simp [hother, h]
  · simp [hother]

/-- An ignore file can only leave out more. -/
theorem ignoresParts_of_without (h : (f.without directory).ignoresParts parts = true) :
    f.ignoresParts parts = true := by
  rw [ignoresParts, without, Bool.or_eq_true, List.any_filter, List.any_eq_true] at h
  rw [ignoresParts, Bool.or_eq_true, List.any_eq_true]
  refine h.imp_right ?_
  rintro ⟨entry, hentry, hselects⟩
  exact ⟨entry, hentry, (Bool.and_eq_true _ _ |>.mp hselects).2⟩

end Filter

/-! ## Selections that differ in one directory -/

namespace Discover

variable {includes : P} {f f' : Filter P} {entries : List Entry}

/-- Filters that agree on some files keep the same ones of them. -/
theorem filter_select_congr {p : List String → Bool}
    (h : ∀ parts, p parts = true → f'.ignoresParts parts = f.ignoresParts parts) :
    (select includes f' entries).filter p = (select includes f entries).filter p := by
  rw [select, select, filter_sortPaths, filter_sortPaths, List.filter_map, List.filter_map,
    List.filter_filter, List.filter_filter]
  congr 2
  apply List.filter_congr
  intro e he
  cases hp : p e.parts with
  | false => simp [hp]
  | true => rw [wanted, wanted, h e.parts hp]

/-- A filter that leaves out more keeps the files that it does not leave out, in their order. -/
theorem select_eq_filter
    (h : ∀ parts, f.ignoresParts parts = true → f'.ignoresParts parts = true) :
    select includes f' entries = (select includes f entries).filter (!f'.ignoresParts ·) := by
  rw [select, select, filter_sortPaths, List.filter_map, List.filter_filter]
  congr 2
  apply List.filter_congr
  intro e he
  cases hf : f.ignoresParts e.parts with
  | false => simp [wanted, hf, Bool.and_comm]
  | true => simp [wanted, hf, h e.parts hf]

end Discover

/-! ## An ignore file that is set -/

/-- No names go up when a path is resolved. -/
theorem Path.not_mem_parts_resolve (p : Path) : ".." ∉ p.resolve.parts := by
  show ".." ∉ (p.parts.foldl _ []).reverse
  rw [List.mem_reverse]
  refine List.foldlRecOn (motive := fun done => ".." ∉ done) p.parts _ List.not_mem_nil ?_
  intro done hdone name _
  split
  · exact fun hmem => hdone (List.mem_of_mem_tail hmem)
  · next hname =>
    rw [List.mem_cons, not_or]
    exact ⟨fun heq => hname (beq_iff_eq.mpr heq.symm), hdone⟩

/-- The entries at other places below a directory stay, in their order. -/
theorem Tree.filter_below_set (t : Tree) (place parts : List String) (node : Node)
    {q : Entry → Bool} (hq : ∀ e, q e = true → e.parts ≠ place) :
    ((t.set place node).below parts).filter q = (t.below parts).filter q := by
  have htrans : ∀ a b c : Entry, decide (a.parts.length ≤ b.parts.length) = true →
      decide (b.parts.length ≤ c.parts.length) = true →
      decide (a.parts.length ≤ c.parts.length) = true := by
    simp only [decide_eq_true_eq]
    omega
  have htotal : ∀ a b : Entry, (decide (a.parts.length ≤ b.parts.length) ||
      decide (b.parts.length ≤ a.parts.length)) = true := by
    simp only [Bool.or_eq_true, decide_eq_true_eq]
    omega
  rw [below, below, filter_mergeSort htrans htotal, filter_mergeSort htrans htotal,
    List.filter_comm, filter_entries_set t place node hq, List.filter_comm]

/-- The names from the top to the ignore file of a directory below the root. -/
def Filter.placeIn (root : Path) (directory : List String) : List String :=
  root.parts ++ (directory ++ [fileName])

/-- The tree with an ignore file in a directory below the root: a new one, or other content in the
one that is there. -/
def Tree.withIgnoreFile (t : Tree) (root : Path) (directory : List String) (content : List UInt8) :
    Tree :=
  t.set (Filter.placeIn root directory) (.file content)

/-- Something stands where an entry is. -/
theorem Tree.at?_ne_none_of_mem {t : Tree} {e : Entry} (he : e ∈ t.entries) :
    t.at? e.parts ≠ none := by
  unfold at?
  split
  · simp
  · intro hnone
    rw [Option.map_eq_none_iff, List.find?_eq_none] at hnone
    exact hnone e he (beq_self_eq_true e.parts)

/-- What is listed below the root are entries of the tree, and none of them is the root. -/
theorem Discover.mem_entries_of_mem_listing {t : Tree} {root : Path} {e : Entry}
    (he : e ∈ listing t root) : ⟨root.parts ++ e.parts, e.node⟩ ∈ t.entries ∧ e.parts ≠ [] := by
  unfold listing at he
  split at he
  · obtain ⟨d, hd, rfl⟩ := List.mem_map.mp he
    have hparts := Tree.append_drop_of_mem_below hd
    refine ⟨?_, ?_⟩
    · show (⟨root.parts ++ d.parts.drop root.parts.length, d.node⟩ : Entry) ∈ t.entries
      rw [hparts]
      exact (Tree.mem_below_iff.mp hd).1
    · intro hnil
      have hroot : d.parts.drop root.parts.length = [] := hnil
      rw [hroot, List.append_nil] at hparts
      exact (Tree.mem_below_iff.mp hd).2.2 hparts.symm
  · simp at he

/-- What is listed below the root leads to an entry of the tree. -/
theorem Discover.exists_entry_of_mem_listing {t : Tree} {root : Path} {parts : List String}
    (h : parts ∈ (listing t root).map (·.parts)) :
    ∃ e ∈ t.entries, e.parts = root.parts ++ parts := by
  obtain ⟨e, he, rfl⟩ := List.mem_map.mp h
  exact ⟨_, (mem_entries_of_mem_listing he).1, rfl⟩

/-- What lies below the root is not on the way to it. -/
theorem Path.not_prefix_parts (root : Path) (names : List String) (name : String) :
    ¬ root.parts ++ (names ++ [name]) <+: root.parts := by
  intro hbelow
  have hlength := hbelow.length_le
  simp only [List.length_append, List.length_singleton] at hlength
  omega

/-- What lies in a directory below the root is not on the way to the ignore file of the root. -/
theorem Path.not_prefix_child (root : Path) {directory : List String} (hdirectory : directory ≠ [])
    (name : String) :
    ¬ root.parts ++ (directory ++ [name]) <+: (root.child Filter.fileName).parts := by
  intro hbelow
  have hlength := hbelow.length_le
  have hpos := List.length_pos_iff.mpr hdirectory
  simp only [Path.child, List.length_append, List.length_singleton] at hlength
  omega

/-- The way to the ignore file of the root does not go up if the way to the root does not. -/
theorem Path.not_mem_parts_child {root : Path} (hroot : ".." ∉ root.parts) :
    ".." ∉ (root.child Filter.fileName).parts := by
  simpa [Path.child, Filter.fileName] using hroot

section IgnoreFile

variable {t : Tree} {root : Path} {directory : List String} {content : List UInt8}

/-- The other ignore files have the same patterns: no file stands in their way. -/
theorem Filter.patternsIn_withIgnoreFile (ht : t.WellFormed)
    (hplace : t.at? (placeIn root directory) ≠ some .directory) {other : List String}
    (hother : other ≠ directory)
    (hlisted : other ++ [fileName] ∈ (Discover.listing t root).map (·.parts)) :
    patternsIn (P := P) (t.withIgnoreFile root directory content) root other =
      patternsIn t root other := by
  obtain ⟨e, he, hparts⟩ := Discover.exists_entry_of_mem_listing hlisted
  have hne : e.parts ≠ placeIn root directory := by
    rw [hparts, placeIn]
    simpa using hother
  have hdown := ht.descends e he
  have hbelow := ht.not_below he hplace hne
  rw [hparts] at hdown hbelow
  rw [patternsIn, patternsIn, Tree.withIgnoreFile,
    Tree.readText_set_of_not_below (.file content) hdown hbelow]

variable (hroot : ".." ∉ root.parts)

include hroot

/-- The entries below the root are listed as before, up to the ignore file. -/
theorem Discover.filter_listing_withIgnoreFile {q : Entry → Bool}
    (hq : ∀ e, q e = true → e.parts ≠ directory ++ [Filter.fileName]) :
    (listing (t.withIgnoreFile root directory content) root).filter q =
      (listing t root).filter q := by
  have hshort : ¬ Filter.placeIn root directory <+: root.parts := root.not_prefix_parts _ _
  rw [listing, listing, Tree.withIgnoreFile,
    Tree.isDirectory_set_of_not_below (.file content) hroot hshort]
  split
  · rw [List.filter_map, List.filter_map, Tree.filter_below_set]
    intro e he heq
    refine hq _ he ?_
    show e.parts.drop root.parts.length = _
    rw [heq, Filter.placeIn, List.drop_left]
  · rfl

/-- The same files are selected from the listing: an ignore file is hidden. -/
theorem Discover.select_listing_withIgnoreFile (includes : P) (f : Filter P) :
    select includes f (listing (t.withIgnoreFile root directory content) root) =
      select includes f (listing t root) := by
  rw [select, select, filter_listing_withIgnoreFile hroot]
  -- Only the ignore file is listed anew, and its name starts with a dot.
  intro e he heq
  have hhidden : isHidden e.parts = true := by
    rw [heq, isHidden, List.any_append]
    simp [Filter.fileName]
  simp [wanted, hhidden] at he

/-- Other entries are listed as before. -/
theorem Discover.mem_listing_withIgnoreFile {parts : List String}
    (hparts : parts ≠ directory ++ [Filter.fileName]) :
    parts ∈ (listing (t.withIgnoreFile root directory content) root).map (·.parts) ↔
      parts ∈ (listing t root).map (·.parts) := by
  have hmem : ∀ entries : List Entry, parts ∈ entries.map (·.parts) ↔
      entries.filter (·.parts == parts) ≠ [] := by
    simp [List.filter_eq_nil_iff]
  rw [hmem, hmem, filter_listing_withIgnoreFile hroot]
  intro e he
  rwa [eq_of_beq he]

/-- The root has the same patterns. -/
theorem Filter.loadRoot_withIgnoreFile (hdirectory : directory ≠ []) :
    loadRoot (P := P) (t.withIgnoreFile root directory content) root = loadRoot t root := by
  have hdown := Path.not_mem_parts_child hroot
  have hshort : ¬ placeIn root directory <+: (root.child fileName).parts :=
    root.not_prefix_child hdirectory _
  simp only [loadRoot]
  rw [Tree.withIgnoreFile, Tree.isFile_set_of_not_below (.file content) hdown hshort,
    Tree.readText_set_of_not_below (.file content) hdown hshort]

/-- Two filters, loaded before and after the ignore file is set, agree up to its directory. -/
theorem Filter.ignoresParts_without_of_load (ht : t.WellFormed) (hdirectory : directory ≠ [])
    (hplace : t.at? (placeIn root directory) ≠ some .directory) {f f' : Filter P}
    (hf : load t root ((Discover.listing t root).map (·.parts)) = .ok f)
    (hf' : load (t.withIgnoreFile root directory content) root
      ((Discover.listing (t.withIgnoreFile root directory content) root).map (·.parts)) = .ok f') :
    (f'.without directory).ignoresParts = (f.without directory).ignoresParts := by
  have hpatterns : f'.rootPatterns = f.rootPatterns := by
    obtain ⟨ps, nested, hps, -, rfl⟩ := exists_loadRoot_of_load hf
    obtain ⟨ps', nested', hps', -, rfl⟩ := exists_loadRoot_of_load hf'
    rw [loadRoot_withIgnoreFile hroot hdirectory, hps] at hps'
    exact (Except.ok.inj hps').symm
  refine ignoresParts_congr hpatterns ?_
  -- Every other directory has the ignore file that it had, and the root decides alike on it.
  rintro ⟨other, own⟩
  rw [without, without, List.mem_filter, List.mem_filter, and_congr_left_iff, bne_iff_ne]
  intro hother
  rw [mem_nested_iff hf', mem_nested_iff hf, hpatterns,
    Discover.mem_listing_withIgnoreFile hroot (by simpa using hother)]
  refine and_congr_right fun _ => and_congr_right fun hlisted => ?_
  rw [patternsIn_withIgnoreFile ht hplace hother hlisted]

end IgnoreFile

/-! ## Searches that differ in one ignore file -/

/-- An ignore file in a directory below the root is for that directory only, however the patterns
are read and matched.  When it is added, or when the one that is there gets other content, the same
files are found outside the directory, in the same order.  When it is added, no file appears in the
directory, and those that stay keep their order. -/
theorem discover_withIgnoreFile (P : Type) [Ignore.Matcher P] (t : Tree) (ht : t.WellFormed)
    (root : Path) (patterns directory : List String) (hdirectory : directory ≠ [])
    (content : List UInt8) (files files' : List (List String))
    (hfiles : (discover (P := P) t root patterns none).result = .ok files)
    (hfiles' : (discover (P := P) (t.withIgnoreFile root.resolve directory content) root patterns
      none).result = .ok files') :
    let inside := fun parts => directory.isPrefixOf parts
    let before := t.at? (Filter.placeIn root.resolve directory)
    (before ≠ some .directory → files'.filter (!inside ·) = files.filter (!inside ·)) ∧
      (before = none → (files'.filter inside).Sublist (files.filter inside)) := by
  intro inside before
  have hroot := root.not_mem_parts_resolve
  obtain ⟨includes, f, hincludes, hf, rfl⟩ := exists_of_result_discover hfiles
  obtain ⟨includes', f', hincludes', hf', rfl⟩ := exists_of_result_discover hfiles'
  obtain rfl : includes = includes' := Except.ok.inj (hincludes.symm.trans hincludes')
  rw [Discover.select_listing_withIgnoreFile hroot]
  have hsame : before ≠ some .directory →
      (f'.without directory).ignoresParts = (f.without directory).ignoresParts :=
    fun hbefore => Filter.ignoresParts_without_of_load hroot ht hdirectory hbefore hf hf'
  constructor
  · intro hbefore
    apply Discover.filter_select_congr
    intro parts hparts
    have houtside : directory.isPrefixOf parts = false := by simpa [inside] using hparts
    rw [← Filter.ignoresParts_without houtside, hsame hbefore,
      Filter.ignoresParts_without houtside]
  · intro hbefore
    -- Without an ignore file in the directory, the first filter knows nothing of it.
    have hunknown : f.without directory = f := by
      apply Filter.without_eq_self
      intro own hmem
      have hlisted := ((Filter.mem_nested_iff hf directory own).mp hmem).2.1
      obtain ⟨e, he, hparts⟩ := Discover.exists_entry_of_mem_listing hlisted
      exact Tree.at?_ne_none_of_mem he (hparts ▸ hbefore)
    rw [Discover.select_eq_filter]
    · exact List.filter_sublist.filter inside
    · intro parts hignores
      apply Filter.ignoresParts_of_without
      rwa [hsame (by rw [hbefore]; simp), hunknown]

/-- Two directories, the name of one starting with that of the other, and an ignore file that comes
to the shorter name and is changed then: what is found in the other directory stays. -/
theorem discover_withIgnoreFile_beside_longer_name :
    let t : Tree := ⟨"/docs", [⟨["a"], .directory⟩, ⟨["ab"], .directory⟩,
      ⟨["a", "x.md"], .file []⟩, ⟨["a", "y.md"], .file []⟩, ⟨["ab", "x.md"], .file []⟩]⟩
    let added := t.withIgnoreFile .top ["a"] "x.md\n".toUTF8.toList
    let changed := added.withIgnoreFile .top ["a"] "y.md\n".toUTF8.toList
    let inside := fun parts => ["a"].isPrefixOf parts
    t.WellFormed ∧ added.WellFormed ∧
      ∃ files files' files'', (discover t .top [] none).result = .ok files ∧
        (discover added .top [] none).result = .ok files' ∧
        (discover changed .top [] none).result = .ok files'' ∧
        ["ab", "x.md"] ∈ files ∧ ["a", "x.md"] ∈ files ∧ ["a", "x.md"] ∉ files' ∧
        ["a", "x.md"] ∈ files'' ∧ files'.filter (!inside ·) = files.filter (!inside ·) ∧
        (files'.filter inside).Sublist (files.filter inside) ∧
        files''.filter (!inside ·) = files'.filter (!inside ·) := by
  intro t added changed inside
  have hfiles : (discover t .top [] none).result =
      .ok [["a", "x.md"], ["a", "y.md"], ["ab", "x.md"]] :=
    result_discover_top t [] (.replicate 5 none) rfl (by decide +kernel) (by decide +kernel)
      (by decide +kernel) (by decide +kernel) (by decide +kernel)
  have hfiles' : (discover added .top [] none).result = .ok [["a", "y.md"], ["ab", "x.md"]] :=
    result_discover_top added []
      (.replicate 5 none ++ [some (["a"], [Filter.namePattern "x.md"])]) rfl
      (by decide +kernel) (by decide +kernel) (by decide +kernel) (by decide +kernel)
      (by decide +kernel)
  have hfiles'' : (discover changed .top [] none).result = .ok [["a", "x.md"], ["ab", "x.md"]] :=
    result_discover_top changed []
      (.replicate 5 none ++ [some (["a"], [Filter.namePattern "y.md"])]) rfl
      (by decide +kernel) (by decide +kernel) (by decide +kernel) (by decide +kernel)
      (by decide +kernel)
  have ht : t.WellFormed := ⟨by decide +kernel, by decide +kernel, by decide +kernel⟩
  have ht' : added.WellFormed := ⟨by decide +kernel, by decide +kernel, by decide +kernel⟩
  obtain ⟨houtside, hinside⟩ :=
    discover_withIgnoreFile Ignore.Patterns t ht .top [] ["a"] (by simp) _ _ _ hfiles hfiles'
  obtain ⟨houtside', -⟩ :=
    discover_withIgnoreFile Ignore.Patterns added ht' .top [] ["a"] (by simp) _ _ _ hfiles' hfiles''
  exact ⟨ht, ht', _, _, _, hfiles, hfiles', hfiles'', by decide, by decide, by decide, by decide,
    houtside (by decide +kernel), hinside (by decide +kernel), houtside' (by decide +kernel)⟩

end FenceLint
