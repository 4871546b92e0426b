import Mathlib.Data.List.Forall2
import RefFrame.Proofs.Fallible

/-!
# Lists of computations that may fail

A list of computations succeeds if each of them does (`mapM_ok_iff`), and otherwise fails like the first
one that does not (`mapM_error_iff`).
-/

namespace RefFrame

variable {α β ε : Type}

theorem mapM_ok_iff {f : α → Except ε β} {xs : List α} {ys : List β} :
    xs.mapM f = .ok ys ↔ List.Forall₂ (fun x y => f x = .ok y) xs ys := by
  induction xs generalizing ys with
  | nil =>
      rw [List.mapM_nil, pure_ok_iff, List.forall₂_nil_left_iff]
      exact eq_comm
  | cons x xs ih =>
      simp only [List.mapM_cons, bind_ok_iff, pure_ok_iff, ih, List.forall₂_cons_left_iff]
      constructor
      · rintro ⟨y, first, ys', rest, rfl⟩
        exact ⟨y, ys', first, rest, rfl⟩
      · rintro ⟨y, ys', first, rest, rfl⟩
        exact ⟨y, first, ys', rest, rfl⟩

theorem exists_mapM_ok_iff {f : α → Except ε β} {xs : List α} :
    (∃ ys, xs.mapM f = .ok ys) ↔ ∀ x ∈ xs, ∃ y, f x = .ok y := by
  constructor
  · rintro ⟨ys, all⟩ x mem
    rcases exists_of_mem_of_mapM all mem with ⟨y, -, found⟩
    exact ⟨y, found⟩
  · intro each
    induction xs with
    | nil =>
        exact ⟨[], rfl⟩
    | cons x xs ih =>
        rcases each x List.mem_cons_self with ⟨y, first⟩
        rcases ih fun x' later => each x' (List.mem_cons_of_mem x later) with ⟨ys, rest⟩
        exact ⟨y :: ys, mapM_ok_iff.2 (.cons first (mapM_ok_iff.1 rest))⟩

theorem mapM_error_iff {f : α → Except ε β} {xs : List α} {e : ε} :
    xs.mapM f = .error e ↔
      ∃ fine bad more, xs = fine ++ bad :: more ∧ (∀ x ∈ fine, ∃ y, f x = .ok y) ∧ f bad = .error e := by
  constructor
  · intro h
    induction xs with
    | nil =>
        cases h
    | cons x xs ih =>
        simp only [List.mapM_cons, bind_error_iff] at h
        rcases h with first | ⟨y, first, later | ⟨ys, -, last⟩⟩
        · exact ⟨[], x, xs, rfl, by simp, first⟩
        · rcases ih later with ⟨fine, bad, more, rfl, each, failed⟩
          exact ⟨x :: fine, bad, more, rfl, List.forall_mem_cons.2 ⟨⟨y, first⟩, each⟩, failed⟩
        · cases last
  · rintro ⟨fine, bad, more, rfl, each, failed⟩
    induction fine with
    | nil =>
        rw [List.nil_append, List.mapM_cons, bind_error_iff]
        exact .inl failed
    | cons x fine ih =>
        rw [List.forall_mem_cons] at each
        rcases each with ⟨⟨y, first⟩, each⟩
        rw [List.cons_append, List.mapM_cons, bind_error_iff]
        exact .inr ⟨y, first, bind_error_iff.2 (.inl (ih each))⟩

end RefFrame
