import FenceLint.Proofs.Discover.Basic
import FenceLint.Proofs.Tree.WellFormed
import Mathlib.Data.List.Nodup
import Mathlib.Data.List.Sort

/-!
# The order of the files that a search finds

A search lists the entries of a tree in some order, and what it finds should not depend on it.  The
ignore files are read in the order of the listing, but which files they leave out does not depend on
that order (`Filter.exists_load_of_perm`).  The files are sorted by their texts, where backslashes
count as slashes, and files with one text stay in the order of the listing.

So the files that are found are the same in every order, and so are their texts, one by one.  The
list itself is the same in every order exactly if no two of the files have one text
(`filesIn_in_any_order`).  An order is any order of the entries, also one that a walk through the
directories would not give.  For two such walks, names with a backslash are enough to see the order
of the listing (`listing_order_found`).
-/

namespace FenceLint

/-! ## Stable sorting -/

section Sorting

variable {α : Type} {le : α → α → Bool}
  (htrans : ∀ a b c, le a b = true → le b c = true → le a c = true)
  (htotal : ∀ a b, (le a b || le b a) = true)

include htrans htotal

/-- What is sorted is cut in two by an element, and the element goes in between. -/
theorem mergeSort_cons_eq (a : α) (l : List α) :
    (a :: l).mergeSort le =
        (l.mergeSort le).filter (!le a ·) ++ a :: (l.mergeSort le).filter (le a ·) ∧
      l.mergeSort le = (l.mergeSort le).filter (!le a ·) ++ (l.mergeSort le).filter (le a ·) := by
  obtain ⟨l₁, l₂, hcons, hl, hless⟩ := List.mergeSort_cons htrans htotal a l
  have hsorted := List.pairwise_mergeSort htrans htotal (a :: l)
  rw [hcons] at hsorted
  have hnotLess : ∀ b ∈ l₂, le a b = true :=
    (List.pairwise_cons.mp (List.pairwise_append.mp hsorted).2.1).1
  have hfirst : (l₁ ++ l₂).filter (!le a ·) = l₁ := by
    rw [List.filter_append, List.filter_eq_self.mpr hless,
      List.filter_eq_nil_iff.mpr (by simpa using hnotLess), List.append_nil]
  have hlast : (l₁ ++ l₂).filter (le a ·) = l₂ := by
    rw [List.filter_append, List.filter_eq_nil_iff.mpr (by simpa using hless),
      List.filter_eq_self.mpr hnotLess, List.nil_append]
  rw [hcons, hl, hfirst, hlast]
  exact ⟨rfl, rfl⟩

/-- Taking elements away changes nothing about the order of the others. -/
theorem filter_mergeSort (p : α → Bool) (l : List α) :
    (l.mergeSort le).filter p = (l.filter p).mergeSort le := by
  induction l with
  | nil => simp
  | cons a l ih =>
    obtain ⟨hcons, hcut⟩ := mergeSort_cons_eq htrans htotal a l
    by_cases ha : p a = true
    · rw [hcons, List.filter_cons_of_pos ha, (mergeSort_cons_eq htrans htotal a _).1, ← ih,
        List.filter_append, List.filter_cons_of_pos ha, List.filter_comm, List.filter_comm (le a ·)]
    · rw [List.filter_cons_of_neg ha, ← ih, hcons, List.filter_append, List.filter_cons_of_neg ha,
        ← List.filter_append, ← hcut]

end Sorting

namespace Discover

/-- The text that a file is sorted by. -/
def sortText (parts : List String) : String := String.ofList (Path.matchText parts)

/-- Files are sorted by their texts. -/
theorem sortPaths_eq (paths : List (List String)) :
    sortPaths paths = paths.mergeSort fun a b => decide (sortText a ≤ sortText b) := by
  have hle : (fun a b => !decide (sortText b < sortText a)) =
      fun a b => decide (sortText a ≤ sortText b) := by
    funext a b
    rw [← decide_not, decide_eq_decide]
    exact String.not_lt
  rw [← hle]
  rfl

theorem sortText_le_trans (a b c : List String) (hab : decide (sortText a ≤ sortText b) = true)
    (hbc : decide (sortText b ≤ sortText c) = true) : decide (sortText a ≤ sortText c) = true := by
  rw [decide_eq_true_eq] at hab hbc ⊢
  exact String.le_trans hab hbc

theorem sortText_le_total (a b : List String) :
    (decide (sortText a ≤ sortText b) || decide (sortText b ≤ sortText a)) = true := by
  rw [Bool.or_eq_true, decide_eq_true_eq, decide_eq_true_eq]
  exact String.le_total (sortText a) (sortText b)

theorem sortPaths_perm (paths : List (List String)) : (sortPaths paths).Perm paths :=
  List.mergeSort_perm paths _

/-- The texts of sorted files ascend. -/
theorem pairwise_sortPaths (paths : List (List String)) :
    (sortPaths paths).Pairwise fun a b => sortText a ≤ sortText b := by
  rw [sortPaths_eq]
  exact (List.pairwise_mergeSort sortText_le_trans sortText_le_total paths).imp of_decide_eq_true

/-- Taking files away changes nothing about the order of the others. -/
theorem filter_sortPaths (p : List String → Bool) (paths : List (List String)) :
    (sortPaths paths).filter p = sortPaths (paths.filter p) := by
  rw [sortPaths_eq, sortPaths_eq, filter_mergeSort sortText_le_trans sortText_le_total]

/-- Files that are listed in the order of their texts stay in that order. -/
theorem sortPaths_eq_self {paths : List (List String)}
    (h : paths.Pairwise fun a b => sortText a ≤ sortText b) : sortPaths paths = paths := by
  rw [sortPaths_eq]
  exact List.mergeSort_of_pairwise (h.imp decide_eq_true)

/-- Files with one text stay in the order in which they were listed. -/
theorem filter_sortText_sortPaths (text : String) (paths : List (List String)) :
    (sortPaths paths).filter (sortText · == text) = paths.filter (sortText · == text) := by
  rw [filter_sortPaths]
  apply sortPaths_eq_self
  rw [List.pairwise_iff_forall_sublist]
  intro a b hab
  have htext : ∀ c ∈ [a, b], sortText c = text := by
    intro c hc
    exact eq_of_beq (List.mem_filter.mp (hab.subset hc)).2
  have hsame : sortText a = sortText b := (htext a (by simp)).trans (htext b (by simp)).symm
  exact hsame ▸ String.le_refl (sortText a)

/-- Sorted files have the same texts in the same order, in whatever order they were listed. -/
theorem map_sortText_sortPaths {paths paths' : List (List String)} (h : paths.Perm paths') :
    (sortPaths paths).map sortText = (sortPaths paths').map sortText := by
  have hperm : (sortPaths paths).Perm (sortPaths paths') :=
    (sortPaths_perm paths).trans (h.trans (sortPaths_perm paths').symm)
  have hsorted : ∀ paths : List (List String), ((sortPaths paths).map sortText).Pairwise (· ≤ ·) :=
    fun paths => List.pairwise_map.mpr (pairwise_sortPaths paths)
  exact List.Perm.eq_of_pairwise (fun _ _ _ _ => String.le_antisymm) (hsorted paths)
    (hsorted paths') (hperm.map sortText)

end Discover

/-! ## Listings in another order -/

section Listing

variable {P : Type} [Ignore.Matcher P] {t : Tree} {root : Path} {entries entries' : List Entry}
  {patterns : List String} {files : List (List String)}

/-- The ignore files can be read in every order, and leave out the same files then. -/
theorem Filter.exists_load_of_perm {listing listing' : List (List String)} {f : Filter P}
    (h : load t root listing = .ok f) (hperm : listing.Perm listing') :
    ∃ f' : Filter P, load t root listing' = .ok f' ∧ f'.ignoresParts = f.ignoresParts := by
  obtain ⟨ps, nested, hroot, hnested, rfl⟩ := exists_loadRoot_of_load h
  obtain ⟨nested', hnested', hperm'⟩ := exists_perm_of_mapM_eq_ok hperm hnested
  refine ⟨_, load_of_loadRoot hroot hnested', ?_⟩
  funext parts
  rw [ignoresParts, ignoresParts, (hperm'.filterMap id).any_eq]

/-- The wanted ones among the listed entries, in the order of the listing. -/
def Discover.wantedParts (includes : P) (f : Filter P) (entries : List Entry) :
    List (List String) :=
  (entries.filter (wanted includes f)).map (·.parts)

/-- What is found in a listing is found in every order of it: the wanted entries are the same, in
that order. -/
theorem Discover.exists_filesIn_of_perm
    (h : filesIn (P := P) t root patterns none entries = .ok files) :
    ∃ (includes : P) (f : Filter P), files = sortPaths (wantedParts includes f entries) ∧
      ∀ entries', entries'.Perm entries →
        filesIn (P := P) t root patterns none entries' =
          .ok (sortPaths (wantedParts includes f entries')) := by
  obtain ⟨includes, f, hincludes, hfilter, rfl⟩ := exists_of_filesIn h
  refine ⟨includes, f, rfl, ?_⟩
  intro entries' hperm
  obtain ⟨f', hfilter', hsame⟩ := Filter.exists_load_of_perm hfilter (hperm.symm.map (·.parts))
  have hwanted : wanted includes f' = wanted includes f := by
    funext e
    rw [wanted, wanted, hsame]
  rw [filesIn_of_load hincludes hfilter', wantedParts, ← hwanted]
  rfl

/-- What lies below a directory starts with its names. -/
theorem Tree.mem_below_iff {parts : List String} {e : Entry} :
    e ∈ t.below parts ↔ e ∈ t.entries ∧ parts <+: e.parts ∧ e.parts ≠ parts := by
  rw [Tree.below, List.mem_mergeSort, List.mem_filter, Bool.and_eq_true,
    List.isPrefixOf_iff_prefix, bne_iff_ne]

/-- The names to what lies below a directory are those to the directory and those from it. -/
theorem Tree.append_drop_of_mem_below {parts : List String} {e : Entry} (he : e ∈ t.below parts) :
    parts ++ e.parts.drop parts.length = e.parts :=
  List.prefix_iff_eq_append.mp (mem_below_iff.mp he).2.1

/-- No place is listed twice. -/
theorem Discover.nodup_listing (ht : t.WellFormed) (root : Path) :
    ((listing t root).map (·.parts)).Nodup := by
  unfold listing
  split
  · have hbelow : ((t.below root.parts).map (·.parts)).Nodup := by
      have hperm : (t.below root.parts).Perm _ := List.mergeSort_perm _ _
      rw [(hperm.map (·.parts)).nodup_iff]
      exact ht.distinct.sublist (List.filter_sublist.map _)
    have hmap : ((t.below root.parts).map fun e =>
        { e with parts := e.parts.drop root.parts.length }).map (·.parts) =
          ((t.below root.parts).map (·.parts)).map (List.drop root.parts.length) := by
      rw [List.map_map, List.map_map]
      rfl
    rw [hmap]
    refine List.Nodup.map_on ?_ hbelow
    -- All of these places start with the names of the root.
    intro a ha b hb hdrop
    obtain ⟨e, he, rfl⟩ := List.mem_map.mp ha
    obtain ⟨e', he', rfl⟩ := List.mem_map.mp hb
    rw [← Tree.append_drop_of_mem_below he, hdrop, Tree.append_drop_of_mem_below he']
  · simp

/-- The wanted entries are listed once. -/
theorem Discover.nodup_wantedParts (includes : P) (f : Filter P)
    (h : (entries.map (·.parts)).Nodup) : (wantedParts includes f entries).Nodup :=
  h.sublist (List.filter_sublist.map _)

end Listing

/-! ## Reproducible searches -/

/-- A list without repetitions that reads the same backwards has one element at most. -/
theorem length_le_one_of_reverse_eq {α : Type} {l : List α} (hnodup : l.Nodup)
    (h : l.reverse = l) : l.length ≤ 1 := by
  cases l with
  | nil => simp
  | cons a l =>
    rw [List.reverse_cons] at h
    cases hl : l.reverse with
    | nil =>
      rw [List.reverse_eq_nil_iff.mp hl]
      simp
    | cons b rest =>
      rw [hl, List.cons_append] at h
      have hb : b ∈ l := List.mem_reverse.mp (by simp [hl])
      rw [(List.cons.inj h).1] at hb
      exact absurd hb (List.nodup_cons.mp hnodup).1

/-- Files that are sorted alike when they are listed backwards have different texts: those with one
text keep the order of the listing. -/
theorem Discover.nodup_map_sortText_of_reverse {paths : List (List String)} (hnodup : paths.Nodup)
    (h : sortPaths paths.reverse = sortPaths paths) : ((sortPaths paths).map sortText).Nodup := by
  rw [List.nodup_iff_count_le_one]
  intro text
  have hsame : (paths.filter (sortText · == text)).reverse = paths.filter (sortText · == text) := by
    rw [← List.filter_reverse, ← filter_sortText_sortPaths, h, filter_sortText_sortPaths]
  have hcount : ((sortPaths paths).map sortText).count text =
      (paths.filter (sortText · == text)).length := by
    rw [← filter_sortText_sortPaths, List.count_eq_countP, List.countP_map,
      List.countP_eq_length_filter]
    rfl
  rw [hcount]
  exact length_le_one_of_reverse_eq (hnodup.filter _) hsame

/-- Files with different texts are sorted in one way only. -/
theorem Discover.sortPaths_eq_of_nodup {paths paths' : List (List String)} (h : paths.Perm paths')
    (hnodup : ((sortPaths paths).map sortText).Nodup) : sortPaths paths' = sortPaths paths := by
  have hperm : (sortPaths paths').Perm (sortPaths paths) :=
    (sortPaths_perm paths').trans (h.symm.trans (sortPaths_perm paths).symm)
  refine List.Perm.eq_of_pairwise ?_ (pairwise_sortPaths paths') (pairwise_sortPaths paths) hperm
  intro a b ha hb hab hba
  exact List.inj_on_of_nodup_map hnodup (hperm.mem_iff.mp ha) hb (String.le_antisymm hab hba)

/-- In whatever order the entries of a tree are listed, a search ends well if it does so in one
order, and finds the same files, each of them once, sorted by the same texts.  The list of the files
is the same in every order exactly if no two of them have one text; that is about all orders of the
entries, not only those of a walk from directory to directory. -/
theorem filesIn_in_any_order (t : Tree) (ht : t.WellFormed) (root : Path) (patterns : List String)
    (entries : List Entry) (hentries : entries.Perm (Discover.listing t root))
    (files : List (List String))
    (hfiles : Discover.filesIn t root patterns none entries = .ok files) :
    files.Nodup ∧
      (files.Pairwise fun a b => Discover.sortText a ≤ Discover.sortText b) ∧
      (∀ entries', entries'.Perm entries →
        ∃ files', Discover.filesIn t root patterns none entries' = .ok files' ∧
          files'.Perm files ∧ files'.map Discover.sortText = files.map Discover.sortText) ∧
      ((∀ entries', entries'.Perm entries →
          Discover.filesIn t root patterns none entries' = .ok files) ↔
        (files.map Discover.sortText).Nodup) := by
  obtain ⟨includes, f, rfl, hall⟩ := Discover.exists_filesIn_of_perm hfiles
  have hnodup : (Discover.wantedParts includes f entries).Nodup := by
    apply Discover.nodup_wantedParts
    rw [(hentries.map (·.parts)).nodup_iff]
    exact Discover.nodup_listing ht root
  have hperm : ∀ {entries'}, entries'.Perm entries →
      (Discover.wantedParts includes f entries').Perm (Discover.wantedParts includes f entries) :=
    fun h => (h.filter _).map _
  refine ⟨(Discover.sortPaths_perm _).nodup_iff.mpr hnodup, Discover.pairwise_sortPaths _, ?_, ?_⟩
  · intro entries' h
    refine ⟨_, hall entries' h, ?_, Discover.map_sortText_sortPaths (hperm h)⟩
    exact (Discover.sortPaths_perm _).trans ((hperm h).trans (Discover.sortPaths_perm _).symm)
  · constructor
    · intro hsame
      have hreverse := hsame entries.reverse entries.reverse_perm
      rw [hall _ entries.reverse_perm] at hreverse
      apply Discover.nodup_map_sortText_of_reverse hnodup
      rw [← Except.ok.inj hreverse, Discover.wantedParts, Discover.wantedParts,
        List.filter_reverse, List.map_reverse]
    · intro htexts entries' h
      rw [hall entries' h, Discover.sortPaths_eq_of_nodup (hperm h).symm htexts]

/-- What is found are the wanted entries, as they are listed if that is the order of their texts. -/
theorem Discover.filesIn_of_wantedParts {t : Tree} {root : Path} {patterns : List String}
    {entries : List Entry} {includes own : Ignore.Patterns}
    {nested : List (Option (List String × Ignore.Patterns))} {files : List (List String)}
    (hincludes : includesOf patterns = .ok includes) (hown : Filter.ownPatterns t root = .ok own)
    (hnested : (entries.map (·.parts)).mapM
      (Filter.loadNested t root (Filter.alwaysPatterns ++ own)) = .ok nested)
    (hwanted : wantedParts includes ⟨root, Filter.alwaysPatterns ++ own, nested.filterMap id⟩
      entries = files)
    (hsorted : files.Pairwise fun a b => sortText a ≤ sortText b) :
    filesIn t root patterns none entries = .ok files := by
  rw [filesIn_of_load hincludes (Filter.load_eq hown hnested), ← sortPaths_eq_self hsorted,
    ← hwanted]
  rfl

/-- What a search of a whole tree finds can be read off its entries, if those near to the top come
first and the wanted ones stand in the order of their texts. -/
theorem result_discover_top (t : Tree) (own : Ignore.Patterns)
    (nested : List (Option (List String × Ignore.Patterns))) {files : List (List String)}
    (htop : t.isDirectory .top = true)
    (hentries : (∀ e ∈ t.entries, e.parts ≠ []) ∧
      t.entries.Pairwise fun a b => a.parts.length ≤ b.parts.length)
    (hown : (Filter.ownPatterns t .top).toOption = some own)
    (hnested : ((t.entries.map (·.parts)).mapM
      (Filter.loadNested t .top (Filter.alwaysPatterns ++ own))).toOption = some nested)
    (hwanted : Discover.wantedParts Discover.defaultIncludes
      ⟨.top, Filter.alwaysPatterns ++ own, nested.filterMap id⟩ t.entries = files)
    (hsorted : files.Pairwise fun a b => Discover.sortText a ≤ Discover.sortText b) :
    (discover t .top [] none).result = .ok files := by
  rw [result_discover_of_listing rfl (Discover.listing_top htop hentries.1 hentries.2)]
  exact Discover.filesIn_of_wantedParts Discover.includesOf_nil (eq_ok_of_toOption hown)
    (eq_ok_of_toOption hnested) hwanted hsorted

/-- A tree with an ignore file in which no two files have one text: the files that are left are
found in one order, whatever the order of the listing. -/
theorem filesIn_in_any_order_ignored_draft :
    let t : Tree := ⟨"/docs", [⟨["a.md"], .file []⟩, ⟨["b"], .directory⟩,
      ⟨["b", ".gitignore"], .file "x.md\n".toUTF8.toList⟩, ⟨["b", "x.md"], .file []⟩,
      ⟨["b", "y.md"], .file []⟩]⟩
    t.WellFormed ∧ ∀ entries, entries.Perm (Discover.listing t .top) →
      Discover.filesIn t .top [] none entries = .ok [["a.md"], ["b", "y.md"]] := by
  intro t
  have ht : t.WellFormed := ⟨by decide +kernel, by decide +kernel, by decide +kernel⟩
  have hentries : Discover.listing t .top = t.entries :=
    Discover.listing_top rfl (by simp [t]) (by simp [t])
  let own : Ignore.Patterns := [Filter.namePattern "x.md"]
  have hfiles : Discover.filesIn t .top [] none t.entries = .ok [["a.md"], ["b", "y.md"]] :=
    Discover.filesIn_of_wantedParts Discover.includesOf_nil
      (eq_ok_of_toOption (a := []) (by decide +kernel))
      (eq_ok_of_toOption (a := [none, none, some (["b"], own), none, none]) (by decide +kernel))
      (by decide +kernel) (by decide +kernel)
  obtain ⟨-, -, -, hsame⟩ := filesIn_in_any_order t ht .top [] t.entries
    (hentries ▸ List.Perm.refl _) _ hfiles
  rw [hentries]
  exact ⟨ht, hsame.mpr (by decide +kernel)⟩

/-- The order of a listing can be seen in what is found.  A backslash in a name counts as a slash,
so the two files have one text, and they are found in the order in which a walk comes to their
directories; and of a file with a backslash in its name and one in a directory, the one is found
first whose path comes last. -/
theorem listing_order_found :
    (let t : Tree := ⟨"/docs", [⟨["a"], .directory⟩, ⟨["a\\b"], .directory⟩,
        ⟨["a", "b"], .directory⟩, ⟨["a\\b", "c.md"], .file []⟩, ⟨["a", "b", "c.md"], .file []⟩]⟩
      let entries : List Entry := [⟨["a"], .directory⟩, ⟨["a\\b"], .directory⟩,
        ⟨["a", "b"], .directory⟩, ⟨["a", "b", "c.md"], .file []⟩, ⟨["a\\b", "c.md"], .file []⟩]
      let entries' : List Entry := [⟨["a\\b"], .directory⟩, ⟨["a"], .directory⟩,
        ⟨["a\\b", "c.md"], .file []⟩, ⟨["a", "b"], .directory⟩, ⟨["a", "b", "c.md"], .file []⟩]
      t.WellFormed ∧ entries.Perm (Discover.listing t .top) ∧
        entries'.Perm (Discover.listing t .top) ∧
        Discover.filesIn t .top [] none entries = .ok [["a", "b", "c.md"], ["a\\b", "c.md"]] ∧
        Discover.filesIn t .top [] none entries' = .ok [["a\\b", "c.md"], ["a", "b", "c.md"]]) ∧
      let t : Tree :=
        ⟨"/docs", [⟨["a\\b.md"], .file []⟩, ⟨["a"], .directory⟩, ⟨["a", "b.md"], .file []⟩]⟩
      (discover t .top [] none).result = .ok [["a\\b.md"], ["a", "b.md"]] ∧
        Path.partsText ["a", "b.md"] < Path.partsText ["a\\b.md"] := by
  -- There are no ignore files in these trees.
  have hfound : ∀ {t : Tree} {entries : List Entry} {files : List (List String)},
      (Filter.ownPatterns t .top).toOption = some [] →
      ((entries.map (·.parts)).mapM
        (Filter.loadNested t .top (Filter.alwaysPatterns ++ []))).toOption =
          some (List.replicate entries.length none) →
      Discover.wantedParts _ ⟨.top, _, (List.replicate entries.length none).filterMap id⟩ entries =
        files →
      (files.Pairwise fun a b => Discover.sortText a ≤ Discover.sortText b) →
      Discover.filesIn t .top [] none entries = .ok files :=
    fun hroot hnested => Discover.filesIn_of_wantedParts Discover.includesOf_nil
      (eq_ok_of_toOption hroot) (eq_ok_of_toOption hnested)
  refine ⟨?_, ?_⟩
  · intro t entries entries'
    have ht : t.WellFormed := ⟨by decide +kernel, by decide +kernel, by decide +kernel⟩
    have hlisting : Discover.listing t .top = t.entries :=
      Discover.listing_top rfl (by simp [t]) (by simp [t])
    rw [hlisting]
    refine ⟨ht, by decide +kernel, by decide +kernel, ?_, ?_⟩
    · exact hfound (by decide +kernel) (by decide +kernel) (by decide +kernel) (by decide +kernel)
    · exact hfound (by decide +kernel) (by decide +kernel) (by decide +kernel) (by decide +kernel)
  · intro t
    refine ⟨?_, by decide +kernel⟩
    exact result_discover_top t [] [none, none, none] rfl (by decide +kernel) (by decide +kernel)
      (by decide +kernel) (by decide +kernel) (by decide +kernel)

end FenceLint
