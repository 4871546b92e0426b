/-!
# Computations that may fail

What it takes for a computation that may fail to succeed, one lemma for each way of putting such
computations together.
-/

namespace RefFrame

variable {α β ε ε' : Type} {x : Except ε α} {f : α → Except ε β} {a : α} {b : β} {e : ε}

theorem bind_ok_iff : (x >>= f) = .ok b ↔ ∃ a, x = .ok a ∧ f a = .ok b := by
  cases x <;> simp [bind, Except.bind]

theorem bind_error_iff :
    (x >>= f) = .error e ↔ x = .error e ∨ ∃ a, x = .ok a ∧ f a = .error e := by
  cases x <;> simp [bind, Except.bind]

theorem pure_ok_iff {a' : α} : (pure a : Except ε α) = .ok a' ↔ a = a' := by
  simp [pure, Except.pure]

theorem mapError_ok_iff {g : ε → ε'} : x.mapError g = .ok a ↔ x = .ok a := by
  cases x with
  | error e =>
      exact ⟨nofun, nofun⟩
  | ok a' =>
      have same : (Except.ok a' : Except ε α).mapError g = .ok a' := rfl
      rw [same, Except.ok.injEq, Except.ok.injEq]

theorem mapError_error_iff {g : ε → ε'} {e' : ε'} :
    x.mapError g = .error e' ↔ ∃ e, x = .error e ∧ g e = e' := by
  cases x with
  | error e =>
      have same : (Except.error e : Except ε α).mapError g = .error (g e) := rfl
      simp [same]
  | ok a =>
      have same : (Except.ok a : Except ε α).mapError g = .ok a := rfl
      simp [same]

theorem map_ok_iff {g : α → β} : x.map g = .ok b ↔ ∃ a, x = .ok a ∧ g a = b := by
  cases x <;> simp [Except.map]

theorem map_error_iff {g : α → β} : x.map g = .error e ↔ x = .error e := by
  cases x <;> simp [Except.map]

-- The `throw` of a `do` block stands before a rest that it never reaches.
theorem guard_ok_iff {t : Prop} [Decidable t] {rest : Except ε β} :
    (if t then (throw e : Except ε α) >>= f else rest) = .ok b ↔ ¬ t ∧ rest = .ok b := by
  by_cases h : t <;> simp [h, throw, throwThe, MonadExceptOf.throw, bind, Except.bind]

/-! ## Along a list -/

variable {xs : List α} {ys : List β} {y : β}

theorem exists_of_mem_mapM (h : xs.mapM f = .ok ys) (mem : y ∈ ys) : ∃ x ∈ xs, f x = .ok y := by
  induction xs generalizing ys with
  | nil =>
      cases h
      cases mem
  | cons x xs ih =>
      simp only [List.mapM_cons, bind_ok_iff, pure_ok_iff] at h
      rcases h with ⟨y', first, ys', rest, rfl⟩
      rcases List.mem_cons.1 mem with rfl | later
      · exact ⟨x, List.mem_cons_self, first⟩
      · rcases ih rest later with ⟨x', mem', found⟩
        exact ⟨x', List.mem_cons_of_mem x mem', found⟩

theorem exists_of_mem_of_mapM {x : α} (h : xs.mapM f = .ok ys) (mem : x ∈ xs) :
    ∃ y ∈ ys, f x = .ok y := by
  induction xs generalizing ys with
  | nil =>
      cases mem
  | cons x' xs ih =>
      simp only [List.mapM_cons, bind_ok_iff, pure_ok_iff] at h
      rcases h with ⟨y', first, ys', rest, rfl⟩
      rcases List.mem_cons.1 mem with rfl | later
      · exact ⟨y', List.mem_cons_self, first⟩
      · rcases ih rest later with ⟨y, mem', found⟩
        exact ⟨y, List.mem_cons_of_mem y' mem', found⟩

/-- What a list is turned into and back again. -/
theorem mapM_map_ok {γ : Type} {g : γ → α} {r : γ → β} {zs : List γ}
    (each : ∀ z ∈ zs, f (g z) = .ok (r z)) : (zs.map g).mapM f = .ok (zs.map r) := by
  induction zs with
  | nil =>
      rfl
  | cons z zs ih =>
      have rest : (zs.map g).mapM f = .ok (zs.map r) :=
        ih fun z' later => each z' (List.mem_cons_of_mem z later)
      rw [List.map_cons, List.mapM_cons, each z List.mem_cons_self, rest]
      rfl

theorem ok_of_forM {check : α → Except ε Unit} (h : xs.forM check = .ok ()) (mem : a ∈ xs) :
    check a = .ok () := by
  induction xs with
  | nil =>
      cases mem
  | cons x xs ih =>
      have steps : (check x >>= fun _ => xs.forM check) = .ok () := h
      rcases bind_ok_iff.1 steps with ⟨⟨⟩, first, rest⟩
      rcases List.mem_cons.1 mem with rfl | later
      · exact first
      · exact ih rest later

theorem exists_of_forM_error {check : α → Except ε Unit} (h : xs.forM check = .error e) :
    ∃ a ∈ xs, check a = .error e := by
  induction xs with
  | nil =>
      cases h
  | cons x xs ih =>
      have steps : (check x >>= fun _ => xs.forM check) = .error e := h
      rcases bind_error_iff.1 steps with first | ⟨-, -, rest⟩
      · exact ⟨x, List.mem_cons_self, first⟩
      · rcases ih rest with ⟨a, mem, found⟩
        exact ⟨a, List.mem_cons_of_mem x mem, found⟩

end RefFrame
