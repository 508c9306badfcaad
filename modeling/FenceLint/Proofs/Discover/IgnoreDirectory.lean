import FenceLint.Proofs.Discover.Locality
import FenceLint.Proofs.Tree.Lookup
import FenceLint.Proofs.Tree.Renamed

/-!
# Directories with the name of an ignore file

A directory can have the name of an ignore file.  At the root it is passed over.  Below the root it
is opened like a file, and that ends the search, unless the patterns of the root ignore it.

If the tree can be searched at all and its ignore files can be read, nothing else ends a search; and
a search that ends well finds what it finds when such a directory has another hidden name
(`discover_beside_ignore_directories`).  One such directory in a directory with a document is enough
for the document not to be found (`ignore_directory_ends_search`).
-/

namespace FenceLint

/-! ## Trees to search -/

/-- The bytes of a file are a text whose lines are patterns. -/
def Filter.IsReadable (bytes : List UInt8) : Prop :=
  ∃ cs ps, Text.Utf8.decode bytes = .ok cs ∧
    parsePatterns (Text.linesOf (String.ofList (Text.unifyNewlines cs))) = .ok ps

/-- A tree that can be searched from a root in it, with ignore files that can be read. -/
structure Tree.Searchable (t : Tree) (root : Path) : Prop where
  /-- The entries are those of a file system. -/
  wellFormed : t.WellFormed
  /-- The root lies in the tree. -/
  inside : root.resolve.anchor = .top
  /-- There is no null character in the path of the root. -/
  noNull : root.hasNull = false
  /-- The system can follow the paths to what lies below the root, and to an ignore file in it. -/
  follows : ∀ parts ∈ [Filter.fileName] :: (Discover.listing t root.resolve).map (·.parts),
    t.CanFollow ⟨.top, root.resolve.parts ++ parts⟩
  /-- Every file with the name of an ignore file can be read. -/
  readable : ∀ e ∈ t.entries, e.parts.getLast? = some Filter.fileName →
    ∀ bytes, e.node = .file bytes → Filter.IsReadable bytes

/-- What stands somewhere below the top is an entry. -/
theorem Tree.mem_entries_of_at? {t : Tree} {parts : List String} {node : Node} (hne : parts ≠ [])
    (h : t.at? parts = some node) : ⟨parts, node⟩ ∈ t.entries := by
  rw [at?, if_neg (by simpa using hne)] at h
  obtain ⟨e, he, rfl⟩ := Option.map_eq_some_iff.mp h
  obtain rfl : e.parts = parts := by simpa using List.find?_some he
  exact List.mem_of_find?_eq_some he

namespace Filter

variable {t : Tree} {root : Path}

/-- A file that can be read gives its text, and the text patterns. -/
theorem IsReadable.exists_patterns {bytes : List UInt8} (h : IsReadable bytes) {p : Path}
    (hp : t.lookup p = .ok (.file bytes)) :
    ∃ own, ((t.readText p).bind fun text => parsePatterns (Text.linesOf text)) = .ok own := by
  obtain ⟨cs, own, hdecode, hparse⟩ := h
  refine ⟨own, ?_⟩
  rw [Tree.readText, hp]
  simp only [hdecode]
  exact hparse

/-- The patterns of the root can be read. -/
theorem exists_ownPatterns (h : t.Searchable root) :
    ∃ own, ownPatterns t root.resolve = .ok own := by
  have hchild : root.resolve.child fileName = ⟨.top, root.resolve.parts ++ [fileName]⟩ := by
    rw [Path.child, h.inside]
  have hfollow := h.follows [fileName] List.mem_cons_self
  rw [← hchild] at hfollow
  rw [ownPatterns, hfollow.isFile_eq]
  cases hlookup : t.lookup (root.resolve.child fileName) with
  | error fault => exact ⟨[], rfl⟩
  | ok node =>
    cases node with
    | directory => exact ⟨[], rfl⟩
    | file bytes =>
      have hdown := Path.not_mem_parts_child root.not_mem_parts_resolve
      have hmem := Tree.mem_entries_of_at? (by simp [Path.child])
        (Tree.at?_of_lookup hdown hlookup)
      exact (h.readable _ hmem List.getLast?_concat bytes rfl).exists_patterns hlookup

/-- The entry is a directory with the name of an ignore file, in a directory below the root, and the
patterns do not select it. -/
def IsObstacle (ps : Ignore.Patterns) (e : Entry) : Prop :=
  e.node = .directory ∧ (∃ directory ≠ [], e.parts = directory ++ [fileName]) ∧
    ps.selects (Path.matchText e.parts) = false

/-- Among the listed entries, nothing but a directory in the place of an ignore file is at fault
when the ignore files below the root are read. -/
theorem loadNested_cases (h : t.Searchable root) (ps : Ignore.Patterns) {e : Entry}
    (he : e ∈ Discover.listing t root.resolve) :
    (IsObstacle ps e ∧ loadNested t root.resolve ps e.parts =
        .error (.opening .isDirectory (t.pathText ⟨.top, root.resolve.parts ++ e.parts⟩))) ∨
      ¬ IsObstacle ps e ∧ ∃ entry, loadNested t root.resolve ps e.parts = .ok entry := by
  by_cases hfile : ∃ directory ≠ [], e.parts = directory ++ [fileName]
  · obtain ⟨directory, hdirectory, hparts⟩ := hfile
    obtain ⟨hmem, -⟩ := Discover.mem_entries_of_mem_listing he
    have hlookup : t.lookup ⟨.top, root.resolve.parts ++ e.parts⟩ = .ok e.node :=
      h.wellFormed.lookup_of_mem hmem (by simp [hparts])
        (h.follows _ (List.mem_cons_of_mem _ (List.mem_map_of_mem he)))
    rw [hparts, loadNested_ignoreFile t root.resolve ps hdirectory,
      Ignore.Matcher.selects_patterns, patternsIn, ← hparts, h.inside]
    cases hselects : ps.selects (Path.matchText e.parts) with
    | true =>
      refine .inr ⟨?_, none, rfl⟩
      rintro ⟨-, -, hfalse⟩
      simp [hselects] at hfalse
    | false =>
      cases hnode : e.node with
      | directory =>
        refine .inl ⟨⟨hnode, ⟨directory, hdirectory, hparts⟩, hselects⟩, ?_⟩
        rw [Tree.readText, hlookup, hnode]
        rfl
      | file bytes =>
        refine .inr ⟨?_, ?_⟩
        · rintro ⟨hfalse, -, -⟩
          simp [hnode] at hfalse
        · rw [hnode] at hlookup hmem
          have hname : (root.resolve.parts ++ e.parts).getLast? = some fileName := by
            rw [hparts, ← List.append_assoc, List.getLast?_concat]
          obtain ⟨own, hown⟩ := (h.readable _ hmem hname bytes rfl).exists_patterns hlookup
          rw [hown]
          exact ⟨some (directory, own), rfl⟩
  · refine .inr ⟨fun hobstacle => hfile hobstacle.2.1, none, if_pos ?_⟩
    rw [Bool.or_eq_true, Bool.or_eq_true, decide_eq_true_eq, bne_iff_ne]
    refine .inl (Classical.or_iff_not_imp_left.mpr fun hlast => ?_)
    -- Only the ignore file of the root itself is left.
    obtain ⟨names, hnames⟩ := List.getLast?_eq_some_iff.mp (Decidable.not_not.mp hlast)
    by_cases hnil : names = []
    · rw [hnames, hnil]
      exact Nat.le_refl 1
    · exact absurd ⟨names, hnil, hnames⟩ hfile

/-- The ignore files are read, unless a directory stands in the place of one. -/
theorem load_cases (h : t.Searchable root) :
    ∃ own, ownPatterns t root.resolve = .ok own ∧
      let entries := Discover.listing t root.resolve
      let ps := alwaysPatterns ++ own
      ((∀ e ∈ entries, ¬ IsObstacle ps e) ∧
          ∃ f, load t root.resolve (entries.map (·.parts)) = .ok f) ∨
        ∃ e ∈ entries, IsObstacle ps e ∧ load t root.resolve (entries.map (·.parts)) =
          .error (.opening .isDirectory (t.pathText ⟨.top, root.resolve.parts ++ e.parts⟩)) := by
  obtain ⟨own, hown⟩ := exists_ownPatterns h
  refine ⟨own, hown, ?_⟩
  intro entries ps
  rcases mapM_cases (loadNested t root.resolve ps) (entries.map (·.parts)) with
    ⟨nested, hnested, hall⟩ | ⟨parts, hparts, failure, hfails, hnested⟩
  · refine .inl ⟨?_, _, load_eq hown hnested⟩
    intro e he hobstacle
    obtain ⟨entry, hentry⟩ := hall e.parts (List.mem_map_of_mem he)
    rcases loadNested_cases h ps he with ⟨-, herror⟩ | ⟨hnot, -⟩
    · simp [herror] at hentry
    · exact hnot hobstacle
  · obtain ⟨e, he, rfl⟩ := List.mem_map.mp hparts
    rcases loadNested_cases h ps he with ⟨hobstacle, herror⟩ | ⟨-, entry, hok⟩
    · refine .inr ⟨e, he, hobstacle, ?_⟩
      obtain rfl := Except.error.inj (herror.symm.trans hfails)
      unfold load
      rw [loadRoot_eq, hown]
      show ((entries.map (·.parts)).mapM (loadNested t root.resolve ps)).bind _ = _
      rw [hnested]
      rfl
    · simp [hok] at hfails

end Filter

/-! ## A hidden entry with another name -/

section Renamed

variable {t : Tree} {root : Path} {above : List String} {old new : String}

/-- Names that lead to hidden ones are hidden. -/
theorem Discover.isHidden_append_cons {name : String} (hname : isHidden [name] = true)
    (names rest : List String) : isHidden (names ++ name :: rest) = true := by
  unfold isHidden at hname ⊢
  rw [List.any_append, List.any_cons, Bool.or_eq_true, Bool.or_eq_true]
  exact .inr (.inl (by simpa using hname))

/-- Names on the way to what is not hidden are not hidden. -/
theorem Discover.not_prefix_of_isHidden {name : String} (hname : isHidden [name] = true)
    {names parts : List String} (hparts : isHidden parts = false) :
    ¬ names ++ [name] <+: parts := by
  rintro ⟨rest, rfl⟩
  rw [List.append_assoc, List.singleton_append, isHidden_append_cons hname] at hparts
  exact absurd hparts (by decide)

/-- What lies below the root is listed as before, under the new names. -/
theorem Discover.listing_rename (hroot : ".." ∉ root.parts) :
    listing (t.rename (root.parts ++ above) old new) root =
      (listing t root).map fun e => { e with parts := Path.renameIn above old new e.parts } := by
  have hshort : ∀ name, ¬ (root.parts ++ above) ++ [name] <+: root.parts := by
    intro name
    rw [List.append_assoc]
    exact root.not_prefix_parts above name
  unfold listing
  rw [Tree.isDirectory_rename hroot (hshort old) (hshort new)]
  split
  · rw [Tree.below_rename, List.map_map, List.map_map]
    apply List.map_congr_left
    intro e he
    show (⟨(Path.renameIn (root.parts ++ above) old new e.parts).drop root.parts.length, e.node⟩ :
      Entry) = ⟨Path.renameIn above old new (e.parts.drop root.parts.length), e.node⟩
    rw [← Tree.append_drop_of_mem_below he, Path.renameIn_append_left, List.drop_left,
      List.drop_left]
  · rfl

/-- What the renaming does not touch is listed as before. -/
theorem Discover.mem_listing_rename (hroot : ".." ∉ root.parts) {parts : List String}
    (hold : ¬ above ++ [old] <+: parts) (hnew : ¬ above ++ [new] <+: parts) :
    parts ∈ (listing (t.rename (root.parts ++ above) old new) root).map (·.parts) ↔
      parts ∈ (listing t root).map (·.parts) := by
  rw [listing_rename hroot, List.map_map, List.mem_map, List.mem_map]
  refine exists_congr fun e => and_congr_right fun _ => ?_
  show Path.renameIn above old new e.parts = _ ↔ _
  rcases Path.renameIn_cases above old new e.parts with ⟨h, -⟩ | ⟨rest, hparts, h⟩
  · rw [h]
  · rw [h, hparts]
    exact ⟨fun h => absurd ⟨rest, by simpa using h⟩ hnew,
      fun h => absurd ⟨rest, by simpa using h⟩ hold⟩

/-- Filters that know the same ignore files in directories that are not hidden leave out the same
files that are not hidden. -/
theorem Filter.ignoresParts_congr_of_not_hidden {f f' : Filter}
    (hroot : f'.rootPatterns = f.rootPatterns)
    (hnested : ∀ directory own, Discover.isHidden directory = false →
      ((directory, own) ∈ f'.nested ↔ (directory, own) ∈ f.nested))
    {parts : List String} (hparts : Discover.isHidden parts = false) :
    f'.ignoresParts parts = f.ignoresParts parts := by
  have hway : ∀ directory : List String, directory.isPrefixOf parts = true →
      Discover.isHidden directory = false := by
    intro directory hdirectory
    obtain ⟨rest, rfl⟩ := List.isPrefixOf_iff_prefix.mp hdirectory
    rw [Discover.isHidden, List.any_append, Bool.or_eq_false_iff] at hparts
    exact hparts.1
  rw [ignoresParts, ignoresParts, hroot]
  congr 1
  rw [Bool.eq_iff_iff, List.any_eq_true, List.any_eq_true]
  refine exists_congr ?_
  rintro ⟨directory, own⟩
  refine and_congr_left fun hselects => hnested directory own (hway directory ?_)
  exact (Bool.and_eq_true _ _ |>.mp hselects).1

/-- The same files are selected when something hidden has another hidden name. -/
theorem Discover.select_rename (hold : isHidden [old] = true) (hnew : isHidden [new] = true)
    (includes : Ignore.Patterns) {f f' : Filter}
    (hsame : ∀ parts, isHidden parts = false → f'.ignoresParts parts = f.ignoresParts parts)
    (entries : List Entry) :
    select includes f'
        (entries.map fun e => { e with parts := Path.renameIn above old new e.parts }) =
      select includes f entries := by
  have hhidden : ∀ (g : Filter) (e : Entry), isHidden e.parts = true →
      wanted includes g e = false := by
    intro g e he
    simp [wanted, he]
  have hwanted : (wanted includes f' ∘
      fun e : Entry => { e with parts := Path.renameIn above old new e.parts }) =
        wanted includes f := by
    funext e
    rw [Function.comp_apply]
    rcases Path.renameIn_cases above old new e.parts with ⟨heq, -⟩ | ⟨rest, hparts, heq⟩
    · rw [heq]
      cases he : isHidden e.parts with
      | true => rw [hhidden f' e he, hhidden f e he]
      | false => rw [wanted, wanted, hsame e.parts he]
    · rw [heq, hhidden f e (hparts ▸ isHidden_append_cons hold above rest)]
      exact hhidden f' _ (isHidden_append_cons hnew above rest)
  rw [select, select, List.filter_map, hwanted, List.map_map]
  congr 1
  apply List.map_congr_left
  intro e he
  show Path.renameIn above old new e.parts = e.parts
  apply Path.renameIn_eq_self
  apply not_prefix_of_isHidden hold
  -- What is selected is not hidden.
  by_contra hne
  rw [List.mem_filter, hhidden f e (by simpa using hne)] at he
  simp at he

end Renamed

/-! ## The directory with another name -/

section Directory

variable {t : Tree} {root : Path} {directory : List String} {name : String} {f f' : Filter}
  (hroot : ".." ∉ root.parts) (hname : name ≠ Filter.fileName)
  (hplace : t.at? (Filter.placeIn root directory) = some .directory)

namespace Filter

/-- Without a file there are no patterns of the root. -/
theorem eq_nil_of_ownPatterns {own : Ignore.Patterns} (hroot : ".." ∉ root.parts)
    (hfile : ∀ bytes, t.at? (root.parts ++ [fileName]) ≠ some (.file bytes))
    (h : ownPatterns t root = .ok own) : own = [] := by
  have hdown := Path.not_mem_parts_child hroot
  obtain ⟨isFile, hisFile, h⟩ := exists_of_bind_eq_ok h
  cases isFile with
  | false => exact (Except.ok.inj h).symm
  | true =>
    obtain ⟨text, htext, -⟩ := exists_of_bind_eq_ok h
    obtain ⟨bytes, hat⟩ := Tree.exists_file_of_readText hdown htext
    exact absurd hat (hfile bytes)

include hroot hname hplace

/-- The root has the same patterns of its own. -/
theorem ownPatterns_rename {own own' : Ignore.Patterns} (hown : ownPatterns t root = .ok own)
    (hown' : ownPatterns (t.rename (root.parts ++ directory) fileName name) root = .ok own') :
    own' = own := by
  by_cases hdirectory : directory = []
  · -- The directory stands at the root itself, where only a file has a say.
    subst hdirectory
    have hfile : t.at? (root.parts ++ [fileName]) = some .directory := hplace
    rw [eq_nil_of_ownPatterns hroot (by simp [hfile]) hown]
    refine eq_nil_of_ownPatterns hroot ?_ hown'
    rw [List.append_nil, Tree.at?_rename_self hname]
    simp
  · have hdown := Path.not_mem_parts_child hroot
    have hshort : ∀ last,
        ¬ (root.parts ++ directory) ++ [last] <+: (root.child fileName).parts := by
      intro last
      rw [List.append_assoc]
      exact root.not_prefix_child hdirectory last
    rw [ownPatterns, Tree.isFile_rename hdown (hshort _) (hshort _),
      Tree.readText_rename hdown (hshort _) (hshort _)] at hown'
    exact (Except.ok.inj (hown.symm.trans hown')).symm

/-- The same ignore files are known in directories that are not hidden. -/
theorem mem_nested_rename (hhidden : Discover.isHidden [name] = true)
    (hpatterns : f'.rootPatterns = f.rootPatterns)
    (hf : load t root ((Discover.listing t root).map (·.parts)) = .ok f)
    (hf' : load (t.rename (root.parts ++ directory) fileName name) root
      ((Discover.listing (t.rename (root.parts ++ directory) fileName name) root).map (·.parts)) =
        .ok f')
    {other : List String} (hother : Discover.isHidden other = false) (own : Ignore.Patterns) :
    (other, own) ∈ f'.nested ↔ (other, own) ∈ f.nested := by
  have hdots : ".." ∉ other := by
    intro hmem
    exact absurd (List.any_eq_false.mp hother ".." hmem) (by decide)
  have hdown : ".." ∉ root.parts ++ (other ++ [fileName]) := by
    simpa [fileName] using ⟨hroot, hdots⟩
  rw [mem_nested_iff hf', mem_nested_iff hf, hpatterns]
  by_cases heq : other = directory
  · -- There is no ignore file in this directory, neither before nor afterwards.
    subst heq
    constructor
    · rintro ⟨-, hlisted, -⟩
      obtain ⟨e, he, hparts⟩ := Discover.exists_entry_of_mem_listing hlisted
      refine absurd ?_ (Tree.at?_ne_none_of_mem he)
      rw [hparts, ← List.append_assoc]
      exact Tree.at?_rename_self hname
    · rintro ⟨-, -, -, hown⟩
      obtain ⟨text, htext, -⟩ := exists_of_bind_eq_ok hown
      obtain ⟨bytes, hat⟩ := Tree.exists_file_of_readText hdown htext
      simp [placeIn, hat] at hplace
  · have haway : ∀ last, Discover.isHidden [last] = true →
        directory ++ [last] ≠ other ++ [fileName] →
        ¬ directory ++ [last] <+: other ++ [fileName] := by
      intro last hlast hne hbelow
      rcases List.prefix_concat_iff.mp hbelow with h | h
      · exact hne h
      · exact Discover.not_prefix_of_isHidden hlast hother h
    have hold : ¬ directory ++ [fileName] <+: other ++ [fileName] :=
      haway fileName (by decide) (by simpa using Ne.symm heq)
    have hnew : ¬ directory ++ [name] <+: other ++ [fileName] :=
      haway name hhidden fun h => hname (List.cons.inj (List.append_inj' h rfl).2).1
    have hread : patternsIn (t.rename (root.parts ++ directory) fileName name) root other =
        patternsIn t root other := by
      rw [patternsIn, patternsIn, Tree.readText_rename hdown]
      · rwa [List.append_assoc, List.prefix_append_right_inj]
      · rwa [List.append_assoc, List.prefix_append_right_inj]
    rw [Discover.mem_listing_rename hroot hold hnew, hread]

end Filter

end Directory

/-! ## Searches beside such directories -/

/-- In a tree that can be searched, a search ends well unless a directory stands in the place of an
ignore file below the root, and the patterns of the root do not select it; then the search ends with
such a directory that cannot be opened.  Whatever a search finds is found as well when a directory
with the name of an ignore file, at the root or anywhere below it, gets another hidden name, if the
search ends well then. -/
theorem discover_beside_ignore_directories (t : Tree) (root : Path) (h : t.Searchable root) :
    ∃ own, Filter.ownPatterns t root.resolve = .ok own ∧
      let entries := Discover.listing t root.resolve
      let obstacle := Filter.IsObstacle (Filter.alwaysPatterns ++ own)
      let found := (discover t root [] none).result
      ((∀ e ∈ entries, ¬ obstacle e) →
        (∃ f, Filter.load t root.resolve (entries.map (·.parts)) = .ok f) ∧
          ∃ files, found = .ok files) ∧
      ((∃ e ∈ entries, obstacle e) →
        ∃ e ∈ entries, obstacle e ∧
          let failure := .opening .isDirectory (t.pathText ⟨.top, root.resolve.parts ++ e.parts⟩)
          Filter.load t root.resolve (entries.map (·.parts)) = .error failure ∧
            found = .error failure) ∧
      ∀ directory name, t.at? (Filter.placeIn root.resolve directory) = some .directory →
        Discover.isHidden [name] = true → name ≠ Filter.fileName →
        ∀ files files', found = .ok files →
          (discover (t.rename (root.resolve.parts ++ directory) Filter.fileName name) root []
            none).result = .ok files' →
          files' = files := by
  obtain ⟨own, hown, hload⟩ := Filter.load_cases h
  refine ⟨own, hown, ?_⟩
  intro entries obstacle found
  have hfound : found = Discover.filesIn t root.resolve [] none entries :=
    result_discover_of_listing h.noNull rfl
  refine ⟨?_, ?_, ?_⟩
  · intro hnone
    rcases hload with ⟨-, f, hf⟩ | ⟨e, he, hobstacle, -⟩
    · exact ⟨⟨f, hf⟩, _, hfound.trans (Discover.filesIn_of_load Discover.includesOf_nil hf)⟩
    · exact absurd hobstacle (hnone e he)
  · rintro ⟨e, he, hobstacle⟩
    rcases hload with ⟨hnone, -⟩ | ⟨e', he', hobstacle', hfails⟩
    · exact absurd hobstacle (hnone e he)
    · refine ⟨e', he', hobstacle', hfails, ?_⟩
      rw [hfound, Discover.filesIn, Discover.includesOf_nil]
      show (Filter.load t root.resolve (entries.map (·.parts))).bind _ = _
      rw [hfails]
      rfl
  · intro directory name hplace hhidden hname files files' hfiles hfiles'
    have hroot := root.not_mem_parts_resolve
    obtain ⟨includes, f, hincludes, hf, rfl⟩ := exists_of_result_discover hfiles
    obtain ⟨includes', f', hincludes', hf', rfl⟩ := exists_of_result_discover hfiles'
    obtain rfl : includes = includes' := Except.ok.inj (hincludes.symm.trans hincludes')
    have hpatterns : f'.rootPatterns = f.rootPatterns := by
      obtain ⟨own, nested, hown, -, rfl⟩ := Filter.exists_of_load hf
      obtain ⟨own', nested', hown', -, rfl⟩ := Filter.exists_of_load hf'
      rw [Filter.ownPatterns_rename hroot hname hplace hown hown']
    rw [Discover.listing_rename hroot]
    refine Discover.select_rename (by decide) hhidden includes ?_ entries
    intro parts hparts
    refine Filter.ignoresParts_congr_of_not_hidden hpatterns ?_ hparts
    intro other own hother
    exact Filter.mem_nested_rename hroot hname hplace hhidden hpatterns hf hf' hother own

/-- A directory with the name of an ignore file at the root, and one in an ignored directory: the
search ends well, and finds the same when the one at the root is called otherwise. -/
theorem discover_beside_ignored_ignore_directory :
    let t : Tree := ⟨"/docs", [⟨[".gitignore"], .directory⟩, ⟨["b"], .directory⟩,
      ⟨["node_modules"], .directory⟩, ⟨[".gitignore", "c.md"], .file []⟩,
      ⟨["b", ".gitignore"], .file "x.md\n".toUTF8.toList⟩, ⟨["b", "x.md"], .file []⟩,
      ⟨["b", "y.md"], .file []⟩, ⟨["node_modules", ".gitignore"], .directory⟩]⟩
    t.Searchable .top ∧ (discover t .top [] none).result = .ok [["b", "y.md"]] ∧
      (discover (t.rename [] Filter.fileName ".hidden") .top [] none).result =
        .ok [["b", "y.md"]] := by
  intro t
  have hentries : Discover.listing t (Path.resolve .top) = t.entries :=
    Discover.listing_top rfl (by simp [t]) (by simp [t])
  have hreadable : Filter.IsReadable "x.md\n".toUTF8.toList := by
    refine ⟨"x.md\n".toList, [Filter.namePattern "x.md"], ?_, ?_⟩
    · exact eq_ok_of_toOption (by decide +kernel)
    · exact eq_ok_of_toOption (by decide +kernel)
  have ht : t.Searchable .top := by
    refine ⟨⟨by decide +kernel, by decide +kernel, by decide +kernel⟩, rfl, rfl, ?_, ?_⟩
    · rw [hentries]
      decide +kernel
    · intro e he hname bytes hbytes
      simp only [t, List.mem_cons, List.not_mem_nil, or_false] at he
      rcases he with rfl | rfl | rfl | rfl | rfl | rfl | rfl | rfl
      · simp at hbytes
      · simp at hbytes
      · simp at hbytes
      · simp [Filter.fileName] at hname
      · rwa [← Node.file.inj hbytes]
      · simp [Filter.fileName] at hname
      · simp [Filter.fileName] at hname
      · simp at hbytes
  have hrenamed : (discover (t.rename [] Filter.fileName ".hidden") .top [] none).result =
      .ok [["b", "y.md"]] :=
    result_discover_top (t.rename [] Filter.fileName ".hidden") []
      [none, none, none, none, some (["b"], [Filter.namePattern "x.md"]), none, none, none]
      rfl (by decide +kernel) (by decide +kernel) (by decide +kernel) (by decide +kernel)
      (by decide +kernel)
  obtain ⟨own, hown, hends, -, hsame⟩ := discover_beside_ignore_directories t .top ht
  rw [hentries] at hends
  obtain rfl : [] = own := by
    have hnone : Filter.ownPatterns t .top = .ok [] := eq_ok_of_toOption (by decide +kernel)
    exact Except.ok.inj (hnone.symm.trans hown)
  have hclear : ∀ e ∈ t.entries, ¬ Filter.IsObstacle (Filter.alwaysPatterns ++ []) e := by
    have hignored : ∀ e ∈ t.entries, e.node = .directory → 1 < e.parts.length →
        (Filter.alwaysPatterns ++ []).selects (Path.matchText e.parts) = true := by decide +kernel
    rintro e he ⟨hnode, ⟨directory, hdirectory, hparts⟩, hselects⟩
    have hlength : 1 < e.parts.length := by
      have hpos := List.length_pos_iff.mpr hdirectory
      rw [hparts, List.length_append, List.length_singleton]
      omega
    exact Bool.noConfusion ((hignored e he hnode hlength).symm.trans hselects)
  obtain ⟨-, files, hfiles⟩ := hends hclear
  have hfound := hsame [] ".hidden" rfl (by decide +kernel) (by decide +kernel) files _ hfiles
    hrenamed
  exact ⟨ht, hfound ▸ hfiles, hrenamed⟩

/-- A directory with the name of an ignore file, beside a document, ends the search; with another
hidden name it does not, and the document is found. -/
theorem ignore_directory_ends_search :
    let t : Tree := ⟨"/docs", [⟨["docs"], .directory⟩, ⟨["docs", ".gitignore"], .directory⟩,
      ⟨["docs", "b.md"], .file []⟩]⟩
    (discover t .top [] none).result = .error (.opening .isDirectory "/docs/docs/.gitignore") ∧
      (discover (t.rename ["docs"] Filter.fileName ".hidden") .top [] none).result =
        .ok [["docs", "b.md"]] := by
  intro t
  have hentries : Discover.listing t (Path.resolve .top) = t.entries :=
    Discover.listing_top rfl (by simp [t]) (by simp [t])
  refine ⟨(result_discover_of_listing rfl hentries).trans rfl, ?_⟩
  exact result_discover_top (t.rename ["docs"] Filter.fileName ".hidden") [] [none, none, none]
    rfl (by decide +kernel) (by decide +kernel) (by decide +kernel) (by decide +kernel)
    (by decide +kernel)

end FenceLint
