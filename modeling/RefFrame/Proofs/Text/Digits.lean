import Mathlib.Algebra.Group.Nat.Defs
import Mathlib.Data.List.Induction
import Mathlib.Data.List.TakeWhile
import RefFrame.DatePattern.Scan

/-!
# Numbers in digits

A number that has been filled up to some width is read back from its digits, digits without a leading
zero are those of their value, and a reader of so many digits takes these digits and no others.
-/

namespace RefFrame

namespace Text

variable {width n : Nat} {c : Char} {cs ds : List Char}

theorem digitsValue_eq (cs : List Char) : digitsValue cs = Nat.ofDigitChars 10 cs 0 := rfl

theorem digitsValue_paddedDigits (width n : Nat) : digitsValue (paddedDigits width n) = n := by
  calc
    digitsValue (paddedDigits width n) = Nat.ofDigitChars 10 (digitsOf n) 0 := by
      rw [digitsValue_eq, paddedDigits, Nat.ofDigitChars_append, Nat.ofDigitChars_replicate_zero,
        Nat.mul_zero]
    _ = n := Nat.ofDigitChars_ten_toDigits

theorem length_paddedDigits (positive : 0 < width) (h : n < 10 ^ width) :
    (paddedDigits width n).length = width := by
  have fits : (digitsOf n).length ≤ width :=
    (Nat.length_toDigits_le_iff (by decide) positive).2 h
  simp only [paddedDigits, List.length_append, List.length_replicate]
  omega

theorem isDigit_of_mem_paddedDigits (h : c ∈ paddedDigits width n) : c.isDigit = true := by
  rcases List.mem_append.1 h with zero | digit
  · rw [List.eq_of_mem_replicate zero]
    rfl
  · exact Nat.isDigit_of_mem_toDigits (by decide) (by decide) digit

/-- A digit is between the first and the last one. -/
theorem toNat_of_isDigit (h : c.isDigit = true) : '0'.toNat ≤ c.toNat ∧ c.toNat ≤ '0'.toNat + 9 := by
  simp only [Char.isDigit, Bool.and_eq_true, decide_eq_true_eq] at h
  exact h

/-- So many digits make no greater number. -/
theorem digitsValue_lt (h : ∀ c ∈ cs, c.isDigit = true) : digitsValue cs < 10 ^ cs.length := by
  induction cs with
  | nil =>
      decide
  | cons c cs ih =>
      have rest : digitsValue cs < 10 ^ cs.length := ih fun c mem => h c (List.mem_cons_of_mem _ mem)
      -- The first digit counts at most nine times the power of ten that bounds the others.
      have digit : c.toNat - '0'.toNat ≤ 9 := by
        have range := toNat_of_isDigit (h c List.mem_cons_self)
        omega
      rw [digitsValue_eq] at rest ⊢
      rw [Nat.ofDigitChars_cons, Nat.ofDigitChars_eq_ofDigitChars_zero, List.length_cons,
        Nat.pow_succ]
      have scaled : 10 ^ cs.length * (10 * 0 + (c.toNat - '0'.toNat)) ≤ 10 ^ cs.length * 9 :=
        Nat.mul_le_mul_left _ (by omega)
      omega

theorem digitChar_digit (h : c.isDigit = true) : (c.toNat - '0'.toNat).digitChar = c := by
  have range := toNat_of_isDigit h
  have zero : '0'.toNat = 48 := by decide
  apply Char.toNat_inj.1
  rw [Nat.toNat_digitChar_of_lt_ten (by omega)]
  omega

theorem digitsValue_concat (front : List Char) (c : Char) :
    digitsValue (front ++ [c]) = 10 * digitsValue front + (c.toNat - '0'.toNat) := by
  rw [digitsValue, List.foldl_append]
  rfl

/-- Digits without a leading zero are those of their value. -/
theorem digitsOf_digitsValue (some_digit : ds ≠ []) (digits : ∀ c ∈ ds, c.isDigit = true)
    (lead : ds.head? = some '0' → ds = ['0']) : digitsOf (digitsValue ds) = ds := by
  induction ds using List.reverseRecOn with
  | nil =>
      exact absurd rfl some_digit
  | append_singleton front c ih =>
      have digit : c.isDigit = true := digits c (by simp)
      have small : c.toNat - '0'.toNat < 10 := by
        have range := toNat_of_isDigit digit
        omega
      have last : digitsOf (c.toNat - '0'.toNat) = [c] := by
        rw [digitsOf, Nat.toDigits_of_lt_base small, digitChar_digit digit]
      rw [digitsValue_concat]
      by_cases alone : front = []
      · rw [alone, digitsValue, List.foldl_nil, Nat.mul_zero, Nat.zero_add, last, List.nil_append]
      · have noZero : front.head? ≠ some '0' := by
          intro zero
          have whole := lead (by rw [List.head?_append, zero]; rfl)
          rcases List.append_eq_singleton_iff.1 whole with ⟨none, -⟩ | ⟨-, none⟩
          · exact alone none
          · cases none
        have before : digitsOf (digitsValue front) = front :=
          ih alone (fun c' mem => digits c' (List.mem_append_left _ mem)) fun zero => absurd zero noZero
        have positive : 0 < digitsValue front := by
          rw [Nat.pos_iff_ne_zero]
          intro zero
          rw [zero] at before
          exact noZero (by rw [← before]; rfl)
        calc
          digitsOf (10 * digitsValue front + (c.toNat - '0'.toNat)) =
              digitsOf (digitsValue front) ++ digitsOf (c.toNat - '0'.toNat) :=
            (Nat.toDigits_append_toDigits (by decide) positive small).symm
          _ = front ++ [c] := by rw [before, last]

theorem eq_zero_of_head?_digitsOf (lead : (digitsOf n).head? = some '0') : digitsOf n = ['0'] := by
  have value : digitsValue (digitsOf n) = n := Nat.ofDigitChars_ten_toDigits
  cases digits : digitsOf n with
  | nil =>
      exact absurd digits Nat.toDigits_ne_nil
  | cons c ds =>
      rw [digits, List.head?_cons, Option.some.injEq] at lead
      subst lead
      rw [digits] at value
      by_cases alone : ds = []
      · rw [alone]
      · -- The digits behind the zero have the same value, and it would be written with no more of them.
        have small : digitsValue ds < 10 ^ ds.length :=
          digitsValue_lt fun c mem => Nat.isDigit_of_mem_toDigits (by decide) (by decide)
            (digits ▸ List.mem_cons_of_mem _ mem : c ∈ digitsOf n)
        have same : digitsValue ds = n := value
        have fits : (digitsOf n).length ≤ ds.length :=
          (Nat.length_toDigits_le_iff (by decide) (List.length_pos_iff.2 alone)).2 (same ▸ small)
        rw [digits, List.length_cons] at fits
        omega

end Text

namespace DatePattern

open Text

variable {least greatest width n : Nat} {ds cs rest : List Char}

theorem readDigits_append (digits : ∀ c ∈ ds, c.isDigit = true) (full : ds.length = greatest)
    (enough : least ≤ greatest) :
    readDigits least greatest (ds ++ rest) = some (digitsValue ds, rest) := by
  have front : (ds ++ rest).take greatest = ds := by
    rw [← full]
    exact List.take_left
  have all : ds.takeWhile Char.isDigit = ds := List.takeWhile_eq_self_iff.2 digits
  have long : ¬ ds.length < least := by omega
  simp [readDigits, front, all, long]

theorem readDigits_paddedDigits (positive : 0 < width) (h : n < 10 ^ width) :
    readDigits width width (paddedDigits width n ++ rest) = some (n, rest) := by
  -- The reader is full once it has taken the padded digits.
  rw [readDigits_append (fun _ => isDigit_of_mem_paddedDigits) (length_paddedDigits positive h)
    (Nat.le_refl width), digitsValue_paddedDigits]

/-- What a reader of digits yields is bounded by how many it takes. -/
theorem readDigits_lt (h : readDigits least greatest cs = some (n, rest)) : n < 10 ^ greatest := by
  simp only [readDigits] at h
  split at h
  · cases h
  · simp only [Option.some.injEq, Prod.mk.injEq] at h
    rcases h with ⟨rfl, -⟩
    have digits : ∀ c ∈ (cs.take greatest).takeWhile Char.isDigit, c.isDigit = true := by
      intro c mem
      exact List.mem_takeWhile_imp mem
    have few : ((cs.take greatest).takeWhile Char.isDigit).length ≤ greatest := by
      have shorter := (List.takeWhile_sublist (l := cs.take greatest) Char.isDigit).length_le
      have taken := List.length_take_le greatest cs
      omega
    exact Nat.lt_of_lt_of_le (digitsValue_lt digits) (Nat.pow_le_pow_right (by decide) few)

end DatePattern
end RefFrame
