import FenceLint.Discover
import FenceLint.Proofs.Trace

/-!
# What a search finds

A search ends well when the include patterns and the ignore files can be read, and then gives the
wanted ones among the listed entries (`exists_of_result_discover`, `mem_select`).

The patterns of the root are those that are always there, followed by the patterns of the ignore
file that the root itself has, if any (`loadRoot_eq`).  That is so because the patterns of ignore
files are read line by line; the other results hold whatever reads and matches patterns.
-/

namespace FenceLint

variable {P : Type} [Ignore.Matcher P]

namespace Filter

/-! ## Loading a filter -/

/-- A filter is loaded when the ignore file of the root and those below it can be read. -/
theorem load_of_loadRoot {t : Tree} {root : Path} {listing : List (List String)} {ps : P}
    {nested : List (Option (List String × P))} (hroot : loadRoot t root = .ok ps)
    (hnested : listing.mapM (loadNested t root ps) = .ok nested) :
    load t root listing = .ok ⟨root, ps, nested.filterMap id⟩ := by
  unfold load
  rw [hroot]
  show (listing.mapM (loadNested t root ps)).bind _ = _
  rw [hnested]
  rfl

/-- What has been read when a filter is loaded. -/
theorem exists_loadRoot_of_load {t : Tree} {root : Path} {listing : List (List String)}
    {f : Filter P} (h : load t root listing = .ok f) :
    ∃ ps nested, loadRoot t root = .ok ps ∧ listing.mapM (loadNested t root ps) = .ok nested ∧
      f = ⟨root, ps, nested.filterMap id⟩ := by
  obtain ⟨ps, hps, h⟩ := exists_of_bind_eq_ok h
  obtain ⟨nested, hnested, h⟩ := exists_of_bind_eq_ok h
  exact ⟨ps, nested, hps, hnested, (Except.ok.inj h).symm⟩

/-! ## The patterns of the root -/

/-- The patterns of the ignore file at the root; none if there is no such file. -/
def ownPatterns (t : Tree) (root : Path) : Except Failure Ignore.Patterns :=
  (t.isFile (root.child fileName)).bind fun isFile =>
    if isFile then
      (t.readText (root.child fileName)).bind fun text => parsePatterns (Text.linesOf text)
    else .ok []

/-- The pattern that a directory name with a slash after it stands for. -/
def directoryPattern (name : String) : Ignore.Pattern :=
  ⟨false, .directories :: (name.toList.map Ignore.Atom.char ++ [.char '/'])⟩

/-- The pattern that a name on its own stands for. -/
def namePattern (name : String) : Ignore.Pattern :=
  ⟨false, .directories :: (name.toList.map Ignore.Atom.char ++ [.nameEnd])⟩

/-- The patterns that are always there, read. -/
def alwaysPatterns : Ignore.Patterns := [directoryPattern "node_modules", directoryPattern ".git"]

/-- Lines behind other lines give patterns behind other patterns. -/
theorem parse_append (lines more : List String) :
    Ignore.Patterns.parse (lines ++ more) =
      (Ignore.Patterns.parse lines).bind fun ps =>
        (Ignore.Patterns.parse more).map fun qs => ps ++ qs := by
  unfold Ignore.Patterns.parse
  rw [List.mapM_append]
  cases lines.mapM Ignore.Pattern.parse with
  | error e => rfl
  | ok ps =>
    cases more.mapM Ignore.Pattern.parse with
    | error e => rfl
    | ok qs =>
      show Except.ok ((ps ++ qs).filterMap id) = Except.ok (ps.filterMap id ++ qs.filterMap id)
      rw [List.filterMap_append]

/-- The patterns that are always there can be read. -/
theorem parse_alwaysIgnored : Ignore.Patterns.parse alwaysIgnored = .ok alwaysPatterns := rfl

/-- The patterns of the root come behind those that are always there. -/
theorem parsePatterns_always_append (lines : List String) :
    parsePatterns (alwaysIgnored ++ lines) =
      (parsePatterns lines).map fun own => alwaysPatterns ++ own := by
  rw [parsePatterns, parsePatterns, Ignore.Matcher.read_patterns, Ignore.Matcher.read_patterns,
    parse_append, parse_alwaysIgnored]
  show ((Ignore.Patterns.parse lines).map fun qs => alwaysPatterns ++ qs).mapError _ = _
  cases Ignore.Patterns.parse lines with
  | error e => rfl
  | ok qs => rfl

/-- The root has the patterns that are always there, then those of its own ignore file. -/
theorem loadRoot_eq (t : Tree) (root : Path) :
    loadRoot t root = (ownPatterns t root).map fun own => alwaysPatterns ++ own := by
  simp only [loadRoot, ownPatterns]
  cases t.isFile (root.child fileName) with
  | error e => rfl
  | ok isFile =>
    cases isFile with
    | false => rfl
    | true =>
      show (t.readText (root.child fileName)).bind _ = _
      cases t.readText (root.child fileName) with
      | error e => rfl
      | ok text => exact parsePatterns_always_append (Text.linesOf text)

/-- A filter is loaded when the ignore file of the root and those below it can be read, and has the
patterns that are always there. -/
theorem load_eq {t : Tree} {root : Path} {listing : List (List String)} {own : Ignore.Patterns}
    {nested : List (Option (List String × Ignore.Patterns))} (hown : ownPatterns t root = .ok own)
    (hnested : listing.mapM (loadNested t root (alwaysPatterns ++ own)) = .ok nested) :
    load t root listing = .ok ⟨root, alwaysPatterns ++ own, nested.filterMap id⟩ := by
  apply load_of_loadRoot _ hnested
  rw [loadRoot_eq, hown]
  rfl

/-- What has been read when a filter is loaded: a filter has the patterns that are always there. -/
theorem exists_of_load {t : Tree} {root : Path} {listing : List (List String)} {f : Filter}
    (h : load t root listing = .ok f) :
    ∃ own nested, ownPatterns t root = .ok own ∧
      listing.mapM (loadNested t root (alwaysPatterns ++ own)) = .ok nested ∧
      f = ⟨root, alwaysPatterns ++ own, nested.filterMap id⟩ := by
  obtain ⟨ps, nested, hps, hnested, rfl⟩ := exists_loadRoot_of_load h
  rw [loadRoot_eq] at hps
  obtain ⟨own, hown, rfl⟩ := exists_of_map_eq_ok hps
  exact ⟨own, nested, hown, hnested, rfl⟩

end Filter

namespace Discover

/-- The entries of a tree are listed as they are, if those near to its top come first. -/
theorem listing_top {t : Tree} (htop : t.isDirectory .top = true)
    (hnames : ∀ e ∈ t.entries, e.parts ≠ [])
    (hnear : t.entries.Pairwise fun a b => a.parts.length ≤ b.parts.length) :
    listing t .top = t.entries := by
  have hinside : (t.entries.filter fun e => [].isPrefixOf e.parts && e.parts != []) =
      t.entries := by
    rw [List.filter_eq_self]
    intro e he
    simpa using hnames e he
  have hbelow : t.below [] = t.entries := by
    unfold Tree.below
    rw [hinside]
    exact List.mergeSort_of_pairwise (by simpa using hnear)
  unfold listing
  rw [if_pos htop]
  show (t.below []).map _ = _
  rw [hbelow]
  exact List.map_id _

/-- The include patterns when none are given, read: names that end in `.md`, at every depth. -/
def defaultIncludes : Ignore.Patterns :=
  [⟨false, [.directories, .run 0, .char '.', .char 'm', .char 'd', .nameEnd]⟩]

/-- The default include patterns can be read. -/
theorem includesOf_nil : includesOf [] = .ok defaultIncludes := rfl

/-- The files to lint are the wanted ones among the entries. -/
theorem mem_select {includes : P} {filter : Filter P} {entries : List Entry}
    {parts : List String} :
    parts ∈ select includes filter entries ↔
      ∃ e ∈ entries, wanted includes filter e = true ∧ e.parts = parts := by
  rw [select, sortPaths, List.mem_mergeSort, List.mem_map]
  constructor
  · rintro ⟨e, he, heq⟩
    rw [List.mem_filter] at he
    exact ⟨e, he.1, he.2, heq⟩
  · rintro ⟨e, he, hwanted, heq⟩
    exact ⟨e, List.mem_filter.mpr ⟨he, hwanted⟩, heq⟩

/-- When one entry is wanted, there is nothing to sort. -/
theorem select_eq_singleton {includes : P} {filter : Filter P} {entries : List Entry}
    {parts : List String}
    (h : ((entries.filter (wanted includes filter)).map (·.parts)) = [parts]) :
    select includes filter entries = [parts] := by
  rw [select, h]
  exact List.mergeSort_singleton parts

/-- A search of listed entries gives the wanted ones among them when the patterns and the ignore
files can be read. -/
theorem filesIn_of_load {t : Tree} {root : Path} {patterns : List String} {entries : List Entry}
    {includes : P} {filter : Filter P} (hincludes : includesOf patterns = .ok includes)
    (hfilter : Filter.load t root (entries.map (·.parts)) = .ok filter) :
    filesIn (P := P) t root patterns none entries = .ok (select includes filter entries) := by
  unfold filesIn
  rw [hincludes]
  show (Filter.load t root (entries.map (·.parts))).bind _ = _
  rw [hfilter]
  rfl

/-- A search of listed entries ends well when the patterns and the ignore files can be read. -/
theorem exists_of_filesIn {t : Tree} {root : Path} {patterns : List String} {entries : List Entry}
    {files : List (List String)} (h : filesIn (P := P) t root patterns none entries = .ok files) :
    ∃ (includes : P) (filter : Filter P), includesOf patterns = .ok includes ∧
      Filter.load t root (entries.map (·.parts)) = .ok filter ∧
      files = select includes filter entries := by
  obtain ⟨includes, hincludes, h⟩ := exists_of_bind_eq_ok h
  obtain ⟨filter, hfilter, h⟩ := exists_of_bind_eq_ok h
  exact ⟨includes, filter, hincludes, hfilter, (Except.ok.inj h).symm⟩

end Discover

/-- The result of a search does not depend on what it logs. -/
theorem result_discover (t : Tree) (root : Path) (patterns : List String)
    (filter? : Option (Filter P)) :
    (discover t root patterns filter?).result =
      (Tree.resolve root).bind fun top =>
        Discover.filesIn t top patterns filter? (Discover.listing t top) := by
  unfold discover
  rw [Traced.result_bind]
  show (Tree.resolve root).bind _ = _
  congr 1
  funext top
  rw [Traced.result_bind]
  show (Discover.filesIn t top patterns filter? (Discover.listing t top)).bind _ = _
  cases Discover.filesIn t top patterns filter? (Discover.listing t top) with
  | error e => rfl
  | ok files => rfl

/-- A search gives what is found in the listing of its root, if the root can be resolved. -/
theorem result_discover_of_listing {t : Tree} {root : Path} {patterns : List String}
    {filter? : Option (Filter P)} {entries : List Entry} (hroot : root.hasNull = false)
    (hentries : Discover.listing t root.resolve = entries) :
    (discover t root patterns filter?).result =
      Discover.filesIn t root.resolve patterns filter? entries := by
  rw [result_discover, Tree.resolve, hroot, ← hentries]
  rfl

/-- A search ends well when the patterns and the ignore files can be read. -/
theorem result_discover_of_load {t : Tree} {root : Path} {patterns : List String}
    {entries : List Entry} {includes : P} {filter : Filter P}
    (hroot : root.hasNull = false) (hentries : Discover.listing t root.resolve = entries)
    (hincludes : Discover.includesOf patterns = .ok includes)
    (hfilter : Filter.load t root.resolve (entries.map (·.parts)) = .ok filter) :
    (discover (P := P) t root patterns none).result =
      .ok (Discover.select includes filter entries) := by
  rw [result_discover_of_listing hroot hentries]
  exact Discover.filesIn_of_load hincludes hfilter

/-- What a search that ends well has read, and what it gives. -/
theorem exists_of_result_discover {t : Tree} {root : Path} {patterns : List String}
    {files : List (List String)} (h : (discover (P := P) t root patterns none).result = .ok files) :
    ∃ (includes : P) (filter : Filter P), Discover.includesOf patterns = .ok includes ∧
      Filter.load t root.resolve ((Discover.listing t root.resolve).map (·.parts)) = .ok filter ∧
      files = Discover.select includes filter (Discover.listing t root.resolve) := by
  rw [result_discover] at h
  obtain ⟨top, htop, h⟩ := exists_of_bind_eq_ok h
  unfold Tree.resolve at htop
  by_cases hnull : root.hasNull = true
  · simp [hnull] at htop
  · rw [if_neg hnull] at htop
    obtain rfl : root.resolve = top := Except.ok.inj htop
    exact Discover.exists_of_filesIn h

end FenceLint
