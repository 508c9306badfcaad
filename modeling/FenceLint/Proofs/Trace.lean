import FenceLint.Trace

/-!
# Results of traced computations

How a computation ends does not depend on what it leaves in its trace.  Taking the result commutes
with going on after a computation and with loops, so that a question about results can be asked
without traces (`Traced.result_bind`, `Traced.result_mapM`).  Computations that succeed leave their
traces one after the other (`Traced.bind_of_ok`, `Traced.mapM_eq`).
-/

namespace FenceLint

/-! ## Computations that may fail -/

section Except

variable {ε α β : Type} {x : Except ε α} {f : α → Except ε β}

/-- What is done with the value of a computation ends well only if the computation does. -/
theorem exists_of_bind_eq_ok {b : β} (h : x.bind f = .ok b) : ∃ a, x = .ok a ∧ f a = .ok b := by
  cases x with
  | error e => simp [Except.bind] at h
  | ok a => exact ⟨a, rfl, h⟩

/-- A value that was changed afterwards comes from a computation that ends well. -/
theorem exists_of_map_eq_ok {g : α → β} {b : β} (h : x.map g = .ok b) :
    ∃ a, x = .ok a ∧ g a = b := by
  cases x with
  | error e => simp [Except.map] at h
  | ok a => exact ⟨a, rfl, Except.ok.inj h⟩

/-- A computation is known to end well by what is left when the reason for failing is forgotten. -/
theorem eq_ok_of_toOption {a : α} (h : x.toOption = some a) : x = .ok a := by
  cases x with
  | error e => simp [Except.toOption] at h
  | ok b => exact congrArg Except.ok (Option.some.inj h)

/-- A loop whose steps can fail for one reason only: it fails for that reason if a step does, and
lists the values otherwise. -/
theorem mapM_eq_ite {fails : α → Bool} {g : α → β} {e : ε} {l : List α}
    (h : ∀ a ∈ l, f a = if fails a then .error e else .ok (g a)) :
    l.mapM f = if l.any fails then .error e else .ok (l.map g) := by
  induction l with
  | nil => rfl
  | cons a l ih =>
    rw [List.mapM_cons, h a List.mem_cons_self, ih fun b hb => h b (List.mem_cons_of_mem a hb)]
    by_cases ha : fails a = true
    · simp only [ha, List.any_cons, Bool.true_or, if_true]
      rfl
    · by_cases hl : l.any fails = true
      · simp only [ha, hl, List.any_cons, Bool.or_true, if_true]
        rfl
      · simp only [ha, hl, List.any_cons, Bool.or_self, Bool.false_eq_true, if_false]
        rfl

/-- A loop ends well if all of its steps do, and with the error of a step otherwise. -/
theorem mapM_cases (f : α → Except ε β) (l : List α) :
    (∃ bs, l.mapM f = .ok bs ∧ ∀ a ∈ l, ∃ b, f a = .ok b) ∨
      ∃ a ∈ l, ∃ e, f a = .error e ∧ l.mapM f = .error e := by
  induction l with
  | nil => exact .inl ⟨[], rfl, by simp⟩
  | cons a l ih =>
    rw [List.mapM_cons]
    cases ha : f a with
    | error e => exact .inr ⟨a, List.mem_cons_self, e, ha, rfl⟩
    | ok b =>
      rcases ih with ⟨bs, hbs, hl⟩ | ⟨a', ha', e, he, hl⟩
      · rw [hbs]
        exact .inl ⟨b :: bs, rfl, List.forall_mem_cons.2 ⟨⟨b, ha⟩, hl⟩⟩
      · rw [hl]
        exact .inr ⟨a', List.mem_cons_of_mem a ha', e, he, rfl⟩

/-- What a loop that ends well lists is what its steps give. -/
theorem mem_iff_of_mapM_eq_ok {l : List α} {bs : List β} (h : l.mapM f = .ok bs) (b : β) :
    b ∈ bs ↔ ∃ a ∈ l, f a = .ok b := by
  induction l generalizing bs with
  | nil =>
    obtain rfl : [] = bs := Except.ok.inj h
    simp
  | cons a l ih =>
    rw [List.mapM_cons] at h
    obtain ⟨first, hfirst, h⟩ := exists_of_bind_eq_ok h
    obtain ⟨rest, hrest, h⟩ := exists_of_bind_eq_ok h
    obtain rfl : first :: rest = bs := Except.ok.inj h
    have hhead : f a = .ok b ↔ b = first := by rw [hfirst, Except.ok.injEq, eq_comm]
    simp only [List.mem_cons, ih hrest, exists_eq_or_imp, hhead]

/-- A loop that ends well lists what its steps end with, one after the other. -/
theorem eq_map_of_mapM_eq_ok {g : α → β} (hg : ∀ a b, f a = .ok b → g a = b) {l : List α}
    {bs : List β} (h : l.mapM f = .ok bs) : bs = l.map g ∧ ∀ a ∈ l, f a = .ok (g a) := by
  induction l generalizing bs with
  | nil =>
    obtain rfl : [] = bs := Except.ok.inj h
    simp
  | cons a l ih =>
    rw [List.mapM_cons] at h
    obtain ⟨first, hfirst, h⟩ := exists_of_bind_eq_ok h
    obtain ⟨rest, hrest, h⟩ := exists_of_bind_eq_ok h
    obtain rfl : first :: rest = bs := Except.ok.inj h
    obtain ⟨rfl, hl⟩ := ih hrest
    obtain rfl : g a = first := hg a first hfirst
    exact ⟨rfl, List.forall_mem_cons.2 ⟨hfirst, hl⟩⟩

/-- A loop that ends well does so in every order, and lists the same values in that order. -/
theorem exists_perm_of_mapM_eq_ok {l l' : List α} (hperm : l.Perm l') {bs : List β}
    (h : l.mapM f = .ok bs) : ∃ bs', l'.mapM f = .ok bs' ∧ bs.Perm bs' := by
  induction hperm generalizing bs with
  | nil => exact ⟨bs, h, .rfl⟩
  | cons a _ ih =>
    rw [List.mapM_cons] at h
    obtain ⟨first, hfirst, h⟩ := exists_of_bind_eq_ok h
    obtain ⟨rest, hrest, h⟩ := exists_of_bind_eq_ok h
    obtain rfl : first :: rest = bs := Except.ok.inj h
    obtain ⟨rest', hrest', hperm⟩ := ih hrest
    refine ⟨first :: rest', ?_, hperm.cons first⟩
    rw [List.mapM_cons, hfirst, hrest']
    rfl
  | swap a b l =>
    rw [List.mapM_cons, List.mapM_cons] at h
    obtain ⟨first, hfirst, h⟩ := exists_of_bind_eq_ok h
    obtain ⟨others, hothers, h⟩ := exists_of_bind_eq_ok h
    obtain rfl : first :: others = bs := Except.ok.inj h
    obtain ⟨second, hsecond, hothers⟩ := exists_of_bind_eq_ok hothers
    obtain ⟨rest, hrest, hothers⟩ := exists_of_bind_eq_ok hothers
    obtain rfl : second :: rest = others := Except.ok.inj hothers
    refine ⟨second :: first :: rest, ?_, .swap second first rest⟩
    rw [List.mapM_cons, List.mapM_cons, hfirst, hsecond, hrest]
    rfl
  | trans _ _ ih ih' =>
    obtain ⟨cs, hcs, hperm⟩ := ih h
    obtain ⟨ds, hds, hperm'⟩ := ih' hcs
    exact ⟨ds, hds, hperm.trans hperm'⟩

end Except

namespace Traced

variable {α β : Type}

/-- A computation that succeeds is followed by its continuation. -/
theorem bind_of_ok {x : Traced α} {a : α} (h : x.result = .ok a) (f : α → Traced β) :
    x >>= f = ⟨x.trace ++ (f a).trace, (f a).result⟩ := by
  rw [bind_eq, h]

/-- A loop whose steps all succeed: the traces follow each other, and the values are listed. -/
theorem mapM_eq {f : α → Traced β} {g : α → β} {l : List α}
    (h : ∀ a ∈ l, (f a).result = .ok (g a)) :
    l.mapM f = ⟨l.flatMap fun a => (f a).trace, .ok (l.map g)⟩ := by
  induction l with
  | nil => rfl
  | cons a l ih =>
    have ha : (f a).result = .ok (g a) := h a List.mem_cons_self
    have hl := ih fun b hb => h b (List.mem_cons_of_mem a hb)
    rw [List.mapM_cons, hl, bind_of_ok ha, bind_of_ok rfl]
    simp [pure, Traced.pure]

/-- The result of two computations is that of the second, unless the first one fails. -/
theorem result_bind (x : Traced α) (f : α → Traced β) :
    (x >>= f).result = x.result.bind fun a => (f a).result := by
  rw [bind_eq]
  cases x.result with
  | error e => rfl
  | ok a => rfl

/-- The result of a loop is that of the loop over the results. -/
theorem result_mapM (f : α → Traced β) (l : List α) :
    (l.mapM f).result = l.mapM fun a => (f a).result := by
  induction l with
  | nil => rfl
  | cons a l ih =>
    rw [List.mapM_cons, List.mapM_cons, result_bind, ← ih]
    show _ = (f a).result.bind _
    congr 1
    funext b
    rw [result_bind]
    rfl

end Traced

end FenceLint
