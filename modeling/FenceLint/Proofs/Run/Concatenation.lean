import FenceLint.Proofs.Run.Passing
import FenceLint.Proofs.Tree.Changed

/-!
# Runs over lists of files

Files are linted one by one, and nothing is carried over from one file to the next.  So a run over
two lists of files is a run over the first followed by a run over the second (`lintFiles_append`):
the traces follow each other, the reports are joined, and the first failure ends everything.

What is reported of a file depends on that file alone.  The order of the files decides the order of
the file reports and nothing else, and another content of one file leaves the reports of all other
files as they are.

Main statement: `lintFiles_one_by_one`.
-/

namespace FenceLint

variable (t : Tree) (root : Path) (config : Config) (engine : Engine) (limit : Option Int)

/-! ## Two lists of files -/

/-- Linting two lists of files is linting the first and then the second. -/
theorem lintFiles_append (fs gs : List Path) :
    lintFiles t root config engine limit (fs ++ gs) = (do
      let first ← lintFiles t root config engine limit fs
      let second ← lintFiles t root config engine limit gs
      return ⟨first.files ++ second.files⟩) := by
  simp only [lintFiles, List.mapM_append, bind_assoc, pure_bind]

/-- When the first files end well, the second ones decide how the run ends. -/
theorem lintFiles_append_of_ok {fs : List Path} {r : Report}
    (h : (lintFiles t root config engine limit fs).result = .ok r) (gs : List Path) :
    lintFiles t root config engine limit (fs ++ gs) =
      ⟨(lintFiles t root config engine limit fs).trace ++
          (lintFiles t root config engine limit gs).trace,
        (lintFiles t root config engine limit gs).result.map fun r' => ⟨r.files ++ r'.files⟩⟩ := by
  rw [lintFiles_append, Traced.bind_of_ok h, Traced.bind_eq]
  cases (lintFiles t root config engine limit gs).result with
  | error e => rfl
  | ok r' =>
    show Traced.mk (_ ++ (_ ++ [])) _ = _
    rw [List.append_nil]
    rfl

/-- When one of the first files fails, the second ones are not looked at. -/
theorem lintFiles_append_of_error {fs : List Path} {e : Failure}
    (h : (lintFiles t root config engine limit fs).result = .error e) (gs : List Path) :
    lintFiles t root config engine limit (fs ++ gs) =
      ⟨(lintFiles t root config engine limit fs).trace, .error e⟩ := by
  rw [lintFiles_append, Traced.bind_eq, h]

/-! ## The report of a file -/

section Files

variable {t root config engine limit}

/-- A list of files that ends well does so in every order, and what is reported of each file does
not depend on the order. -/
theorem exists_of_perm_lintFiles {fs fs' : List Path} {r : Report}
    (h : (lintFiles t root config engine limit fs).result = .ok r) (hperm : fs.Perm fs') :
    ∃ r', (lintFiles t root config engine limit fs').result = .ok r' ∧
      (fs.zip r.files).Perm (fs'.zip r'.files) := by
  obtain ⟨hall, rfl⟩ := eq_of_result_lintFiles h
  have hall' : ∀ p ∈ fs', (lintFile t root config engine limit p).result =
      .ok (answersAt t root config engine limit p) :=
    fun p hp => hall p (hperm.mem_iff.2 hp)
  refine ⟨⟨fs'.map (answersAt t root config engine limit)⟩, ?_, ?_⟩
  · rw [lintFiles, Traced.mapM_eq hall', Traced.bind_of_ok rfl]
    rfl
  · rw [← List.map_prod_left_eq_zip, ← List.map_prod_left_eq_zip]
    exact hperm.map _

/-- What is reported of a file depends on the text of that file alone. -/
theorem answersAt_congr {t' : Tree} (hname : t'.name = t.name) {p : Path}
    (hread : t'.readText p = t.readText p) :
    answersAt t' root config engine limit p = answersAt t root config engine limit p := by
  have hdisplay : displayPath t' root p = displayPath t root p := by
    rw [displayPath, displayPath, Tree.pathText, Tree.pathText, hname]
  rw [answersAt, answersAt, blocksAt, blocksAt, extractFile, extractFile, hdisplay, hread]

/-- The report of a file stands where the file stands in the list. -/
theorem getElem?_files_of_result {fs : List Path} {r : Report}
    (h : (lintFiles t root config engine limit fs).result = .ok r) {i : Nat} {p : Path}
    (hp : fs[i]? = some p) : r.files[i]? = some (answersAt t root config engine limit p) := by
  obtain ⟨-, rfl⟩ := eq_of_result_lintFiles h
  rw [List.getElem?_map, hp, Option.map_some]

end Files

/-! ## One by one -/

/-- Files are linted one by one, with any engine.  A run over two lists has the trace of the first
followed by that of the second and joins their reports, or ends with the failure of the second; if
the first fails, nothing else happens.  A list in another order gives the same reports of its files
in that order, and when one file gets another content, the reports of all others stay as they are.
-/
theorem lintFiles_one_by_one (fs gs : List Path) :
    let lint := lintFiles t root config engine limit
    (∀ r, (lint fs).result = .ok r →
      (lint (fs ++ gs)).trace = (lint fs).trace ++ (lint gs).trace ∧
      (∀ r', (lint gs).result = .ok r' →
        (lint (fs ++ gs)).result = .ok ⟨r.files ++ r'.files⟩) ∧
      ∀ e, (lint gs).result = .error e → (lint (fs ++ gs)).result = .error e) ∧
    (∀ e, (lint fs).result = .error e →
      (lint (fs ++ gs)).trace = (lint fs).trace ∧ (lint (fs ++ gs)).result = .error e) ∧
    (∀ r fs', (lint fs).result = .ok r → fs.Perm fs' →
      r.files.length = fs.length ∧
      ∃ r', (lint fs').result = .ok r' ∧ r'.files.length = fs'.length ∧
        (fs.zip r.files).Perm (fs'.zip r'.files)) ∧
    ∀ parts old new r r', t.at? parts = some (.file old) → (lint fs).result = .ok r →
      (lintFiles (t.set parts (.file new)) root config engine limit fs).result = .ok r' →
      ∀ (i : Nat) (p : Path), fs[i]? = some p → p.resolve ≠ ⟨.top, parts⟩ →
        ∃ file, r.files[i]? = some file ∧ r'.files[i]? = some file := by
  intro lint
  have hlength : ∀ {fs : List Path} {r : Report}, (lint fs).result = .ok r →
      r.files.length = fs.length := by
    intro fs r h
    obtain ⟨-, rfl⟩ := eq_of_result_lintFiles h
    exact List.length_map _
  refine ⟨?_, ?_, ?_, ?_⟩
  · intro r hr
    have happend : lint (fs ++ gs) = _ := lintFiles_append_of_ok t root config engine limit hr gs
    rw [happend]
    refine ⟨rfl, ?_, ?_⟩
    · intro r' hr'
      show (lint gs).result.map _ = _
      rw [hr']
      rfl
    · intro e he
      show (lint gs).result.map _ = _
      rw [he]
      rfl
  · intro e he
    have happend : lint (fs ++ gs) = _ :=
      lintFiles_append_of_error t root config engine limit he gs
    rw [happend]
    exact ⟨rfl, rfl⟩
  · intro r fs' hr hperm
    obtain ⟨r', hr', hzip⟩ := exists_of_perm_lintFiles hr hperm
    exact ⟨hlength hr, r', hr', hlength hr', hzip⟩
  · intro parts old new r r' hfile hr hr' i p hp hother
    refine ⟨_, getElem?_files_of_result hr hp, ?_⟩
    rw [getElem?_files_of_result hr' hp,
      answersAt_congr (Tree.name_set t parts _) (Tree.readText_set hfile new hother)]

/-- Two files on which the engine answers and a third on which it fails.  The failure is that of the
whole run, before and after the other two; these may change places, and when the second gets another
content, the report of the first stays. -/
theorem lintFiles_one_by_one_failing_file :
    let shown := fun line : String => Node.file ("```md\n" ++ line ++ "\n```\n").toUTF8.toList
    let t : Tree :=
      ⟨"/docs", [⟨["a.md"], shown "A"⟩, ⟨["b.md"], shown "B"⟩, ⟨["c.md"], shown "C"⟩]⟩
    let engine : Engine := fun content config => do
      Traced.emit (.lint content config)
      if content = "C\n" then Traced.fail (.scan "C")
      else return [⟨["MD001"], content, 1, none, none⟩]
    let lint := fun t => lintFiles t .top [] engine none
    let path := fun name => Path.mk .top [name]
    let answered := [path "a.md", path "b.md"]
    let failing := [path "c.md"]
    ∃ r r' e, (lint t answered).result = .ok r ∧ (lint t failing).result = .error e ∧
      (lint t (answered ++ failing)).trace = (lint t answered).trace ++ (lint t failing).trace ∧
      (lint t (answered ++ failing)).result = .error e ∧
      (lint t (failing ++ answered)).trace = (lint t failing).trace ∧
      (lint t (failing ++ answered)).result = .error e ∧
      (∃ turned, (lint t answered.reverse).result = .ok turned ∧
        (answered.zip r.files).Perm (answered.reverse.zip turned.files)) ∧
      (lint (t.set ["b.md"] (shown "D")) answered).result = .ok r' ∧
      ∃ file, r.files[0]? = some file ∧ r'.files[0]? = some file := by
  intro shown t engine lint path answered failing
  have hended : ∀ {x : Except Failure Report}, x.toOption.isSome = true → ∃ r, x = .ok r := by
    intro x h
    obtain ⟨r, hr⟩ := Option.isSome_iff_exists.1 h
    exact ⟨r, eq_ok_of_toOption hr⟩
  have hfailed : ∀ {x : Except Failure Report}, x.toOption.isSome = false → ∃ e, x = .error e := by
    intro x h
    cases x with
    | error e => exact ⟨e, rfl⟩
    | ok r => contradiction
  obtain ⟨r, hr⟩ := hended (x := (lint t answered).result) (by decide +kernel)
  obtain ⟨e, he⟩ := hfailed (x := (lint t failing).result) (by decide +kernel)
  obtain ⟨r', hr'⟩ :=
    hended (x := (lint (t.set ["b.md"] (shown "D")) answered).result) (by decide +kernel)
  obtain ⟨hok, -, hperm, hchanged⟩ := lintFiles_one_by_one t .top [] engine none answered failing
  obtain ⟨-, hfail, -, -⟩ := lintFiles_one_by_one t .top [] engine none failing answered
  obtain ⟨htrace, -, hresult⟩ := hok r hr
  obtain ⟨htrace', hresult'⟩ := hfail e he
  obtain ⟨-, turned, hturned, -, hzip⟩ := hperm r _ hr (List.reverse_perm answered).symm
  refine ⟨r, r', e, hr, he, htrace, hresult e he, htrace', hresult', ⟨turned, hturned, hzip⟩, hr',
    ?_⟩
  exact hchanged ["b.md"] _ _ r r' rfl hr hr' 0 (path "a.md") rfl (by decide)

end FenceLint
