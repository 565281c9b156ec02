/-
Computations that may fail, made for each element of a list in order: they
succeed when each of them does, and fail with the error of the first that
does not.

* `mapM_eq_ok`, `exists_mapM_eq_ok`: the results are those of the elements.
* `mapM_eq_error_iff`: the first failure decides.
* `mapError_mapM`: renaming the errors of all renames those of each.
-/
namespace CronSchedule

variable {ε α β : Type}

theorem bind_eq_ok_iff {x : Except ε α} {f : α → Except ε β} {b : β} :
    x >>= f = .ok b ↔ ∃ a, x = .ok a ∧ f a = .ok b := by
  cases x <;> simp [bind, Except.bind]

theorem bind_eq_error_iff {x : Except ε α} {f : α → Except ε β} {e : ε} :
    x >>= f = .error e ↔ x = .error e ∨ ∃ a, x = .ok a ∧ f a = .error e := by
  cases x <;> simp [bind, Except.bind]

theorem exists_bind_eq_ok {x : Except ε α} {f : α → Except ε β} (hx : ∃ a, x = .ok a) (hf : ∀ a, ∃ b, f a = .ok b) :
    ∃ b, x >>= f = .ok b := by
  obtain ⟨a, ha⟩ := hx
  obtain ⟨b, hb⟩ := hf a
  exact ⟨b, bind_eq_ok_iff.mpr ⟨a, ha, hb⟩⟩

theorem mapM_eq_ok {f : α → Except ε β} {xs : List α} {ys : List β} (h : xs.mapM f = .ok ys) :
    (∀ x ∈ xs, ∃ y ∈ ys, f x = .ok y) ∧ ∀ y ∈ ys, ∃ x ∈ xs, f x = .ok y := by
  induction xs generalizing ys with
  | nil =>
    rw [List.mapM_nil] at h
    cases h
    simp
  | cons x xs ih =>
    rw [List.mapM_cons] at h
    obtain ⟨y, hy, h⟩ := bind_eq_ok_iff.mp h
    obtain ⟨rest, hrest, h⟩ := bind_eq_ok_iff.mp h
    cases h
    obtain ⟨h1, h2⟩ := ih hrest
    refine ⟨?_, ?_⟩
    · intro a ha
      rcases List.mem_cons.mp ha with rfl | ha
      · exact ⟨y, List.mem_cons_self, hy⟩
      · obtain ⟨b, hb, hf⟩ := h1 a ha
        exact ⟨b, List.mem_cons_of_mem y hb, hf⟩
    · intro b hb
      rcases List.mem_cons.mp hb with rfl | hb
      · exact ⟨x, List.mem_cons_self, hy⟩
      · obtain ⟨a, ha, hf⟩ := h2 b hb
        exact ⟨a, List.mem_cons_of_mem x ha, hf⟩

theorem exists_mapM_eq_ok {f : α → Except ε β} {xs : List α} (h : ∀ x ∈ xs, ∃ y, f x = .ok y) :
    ∃ ys, xs.mapM f = .ok ys := by
  induction xs with
  | nil => exact ⟨[], rfl⟩
  | cons x xs ih =>
    obtain ⟨y, hy⟩ := h x List.mem_cons_self
    obtain ⟨ys, hys⟩ := ih fun a ha => h a (List.mem_cons_of_mem x ha)
    refine ⟨y :: ys, ?_⟩
    rw [List.mapM_cons, hy, hys]
    rfl

/-- **The first failure decides.** -/
theorem mapM_eq_error_iff {f : α → Except ε β} {xs : List α} {e : ε} :
    xs.mapM f = .error e ↔
      ∃ before x after, xs = before ++ x :: after ∧ (∀ b ∈ before, ∃ y, f b = .ok y) ∧ f x = .error e := by
  induction xs with
  | nil =>
    rw [List.mapM_nil]
    refine ⟨fun h => (nomatch h), ?_⟩
    intro h
    obtain ⟨before, x, after, h, _⟩ := h
    cases before <;> cases h
  | cons x xs ih =>
    rw [List.mapM_cons, bind_eq_error_iff]
    refine ⟨fun h => ?_, fun h => ?_⟩
    · rcases h with hx | ⟨y, hy, h⟩
      · exact ⟨[], x, xs, rfl, by simp, hx⟩
      · rcases bind_eq_error_iff.mp h with h | ⟨ys, _, h⟩
        · obtain ⟨before, z, after, rfl, hb, hz⟩ := ih.mp h
          refine ⟨x :: before, z, after, rfl, ?_, hz⟩
          intro b hb'
          rcases List.mem_cons.mp hb' with rfl | hb'
          · exact ⟨y, hy⟩
          · exact hb b hb'
        · cases h
    · obtain ⟨before, z, after, h, hb, hz⟩ := h
      cases before with
      | nil =>
        rw [List.nil_append, List.cons.injEq] at h
        exact .inl (h.1 ▸ hz)
      | cons b before =>
        rw [List.cons_append, List.cons.injEq] at h
        obtain ⟨rfl, rfl⟩ := h
        obtain ⟨y, hy⟩ := hb x List.mem_cons_self
        refine .inr ⟨y, hy, bind_eq_error_iff.mpr (.inl (ih.mpr ?_))⟩
        exact ⟨before, z, after, rfl, fun c hc => hb c (List.mem_cons_of_mem x hc), hz⟩

/-- Of a list split at its first element without a property there is one such element. -/
theorem first_unique {P : α → Prop} {before before' after after' : List α} {x x' : α}
    (h : before ++ x :: after = before' ++ x' :: after') (hbefore : ∀ b ∈ before, P b) (hbefore' : ∀ b ∈ before', P b)
    (hx : ¬ P x) (hx' : ¬ P x') : x = x' := by
  rcases List.append_eq_append_iff.mp h with ⟨more, rfl, hrest⟩ | ⟨more, rfl, hrest⟩
  · cases more with
    | nil => exact (List.cons.inj hrest).1
    | cons y more =>
      rw [List.cons_append, List.cons.injEq] at hrest
      exact absurd (hbefore' y (by simp)) (hrest.1 ▸ hx)
  · cases more with
    | nil => exact (List.cons.inj hrest).1.symm
    | cons y more =>
      rw [List.cons_append, List.cons.injEq] at hrest
      exact absurd (hbefore y (by simp)) (hrest.1 ▸ hx')

/-! ## Errors renamed -/

theorem mapError_bind {δ : Type} {x : Except ε α} {f : α → Except ε β} {g : ε → δ} :
    (x >>= f).mapError g = x.mapError g >>= fun a => (f a).mapError g := by
  cases x <;> rfl

theorem mapError_mapM {δ : Type} {f : α → Except ε β} {g : ε → δ} {xs : List α} :
    (xs.mapM f).mapError g = xs.mapM fun x => (f x).mapError g := by
  induction xs with
  | nil => rfl
  | cons x xs ih =>
    simp only [List.mapM_cons, mapError_bind, ih]
    rfl

end CronSchedule
