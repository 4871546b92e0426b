import Mathlib
import RefFrame.Reference.UnitFrame

/-!
# The identity on finite floats

A finite float comes back from a multiplication by one and an addition of minus zero. That the bits of a
float are put together again as they were taken apart is in the library (`pack_unpack_of_valid`, which
comes only with the whole of Mathlib); in between, the mantissa of a float is the one that rounding would
choose (`Canonical`), so a product with one has nothing to round.
-/

namespace RefFrame
namespace Binary64

open Float.Model Format UnpackedFloat

variable {b : BitVec binary64.numBits} {s : Sign} {m : Nat} {e : Int} {x : UnpackedFloat}

/-! ## Bits -/

theorem toNat_implicit (w : BitVec 52) : (1#1 ++ w).toNat = 2 ^ 52 + w.toNat := by
  have below : w.toNat < 2 ^ 52 := w.isLt
  rw [BitVec.toNat_append]
  exact (Nat.two_pow_add_eq_or_of_lt below 1).symm

theorem log2_implicit (w : BitVec 52) : (1#1 ++ w).toNat.log2 = 52 := by
  have below : w.toNat < 2 ^ 52 := w.isLt
  rw [toNat_implicit, Nat.log2_eq_iff (by omega)]
  omega

theorem log2_unpackMantissa (positive : 0 < (unpackMantissa b).toNat) :
    (unpackMantissa b).toNat.log2 < 52 :=
  (Nat.log2_lt (Nat.ne_of_gt positive)).2 (unpackMantissa b).isLt

/-! ## Canonical numbers -/

/-- A zero, or a number with the mantissa that rounding gives it. -/
inductive Canonical : UnpackedFloat → Prop
  | zero (s : Sign) : Canonical (.zero s)
  | finite {s : Sign} {m : Nat} {e : Int} {positive : 0 < m}
      (target : binary64.targetExponent (totalExponent m e) = e) :
      Canonical (.finite s m e positive)

theorem canonical_unpack (h : (UnpackedFloat.unpack binary64 b).isFinite) :
    Canonical (UnpackedFloat.unpack binary64 b) := by
  revert h
  fun_cases UnpackedFloat.unpack binary64 b with
  | case1 | case2 =>
      intro infinite
      simp [UnpackedFloat.isFinite] at infinite
  | case3 =>
      exact fun _ => .zero _
  | case4 mantissa exponent e sign s top bottom there =>
      intro _
      have positive : 0 < mantissa.toNat := by
        simpa [BitVec.toNat_pos, BitVec.pos_iff_ne_zero] using there
      have short : mantissa.toNat.log2 < 52 := log2_unpackMantissa positive
      have none_there : exponent.toNat = 0 := by simp [bottom]
      refine .finite ?_
      simp only [targetExponent, totalExponent, minExponent, mantissaBits, exponentBias, e, none_there]
      omega
  | case5 mantissa exponent e sign s top bottom =>
      intro _
      have above : exponent.toNat ≠ 0 := by simpa [← BitVec.toNat_inj] using bottom
      have implicit : (1#1 ++ mantissa).toNat.log2 = 52 := log2_implicit mantissa
      refine .finite ?_
      simp only [targetExponent, totalExponent, minExponent, mantissaBits, exponentBias, implicit, e]
      omega

/-- Zeros that are shifted out leave no trace. -/
theorem shiftRight_mul_two_pow (m k : Nat) :
    (⟨m * 2 ^ k, false, false⟩ : ExtendedMantissa) >>> k = ⟨m, false, false⟩ := by
  show k.repeat ExtendedMantissa.shiftRightOne _ = _
  induction k generalizing m with
  | zero =>
      simp [Nat.repeat]
  | succ k ih =>
      have step : m * 2 ^ (k + 1) = m * 2 * 2 ^ k := by
        rw [Nat.pow_succ, Nat.mul_assoc, Nat.mul_comm 2]
      rw [Nat.repeat, step, ih]
      simp [ExtendedMantissa.shiftRightOne]

theorem totalExponent_shift (positive : 0 < m) (k : Nat) :
    totalExponent (m * 2 ^ k) (e - k) = totalExponent m e := by
  have log2 : (m * 2 ^ k).log2 = m.log2 + k := by
    induction k with
    | zero =>
        simp
    | succ k ih =>
        have there : m * 2 ^ k ≠ 0 := Nat.ne_of_gt (Nat.mul_pos positive (Nat.two_pow_pos k))
        have step : m * 2 ^ (k + 1) = 2 * (m * 2 ^ k) := by
          rw [Nat.pow_succ, ← Nat.mul_assoc, Nat.mul_comm]
        rw [step, Nat.log2_two_mul there, ih, Nat.add_assoc]
  simp only [totalExponent, log2]
  omega

theorem shiftToTargetExponent_shift (positive : 0 < m)
    (target : binary64.targetExponent (totalExponent m e) = e) (k : Nat) :
    shiftToTargetExponent binary64 (m * 2 ^ k) (e - k) .exact = (⟨m, false, false⟩, e) := by
  have amount : (e - (e - k)).toNat = k := by omega
  simp only [shiftToTargetExponent, totalExponent_shift positive, target, shiftToExponent, amount,
    ExtendedMantissa.ofMantissaAndAccuracy, shiftRight_mul_two_pow]
  simp

def one : UnpackedFloat :=
  .finite .positive (2 ^ 52) (-52) (by decide)

theorem mul_one (h : Canonical x) : UnpackedFloat.mul binary64 x one = x := by
  cases h with
  | zero s =>
      cases s <;> rfl
  | @finite s m e positive target =>
      -- The product has 52 zeros at its end; rounding shifts them out and finds nothing to round.
      have sign : s * Sign.positive = s := by cases s <;> rfl
      have unshifted := shiftToTargetExponent_shift positive target 0
      have shifted := shiftToTargetExponent_shift positive target 52
      have rounded : (⟨m, false, false⟩ : ExtendedMantissa).roundedMantissa = m := rfl
      have exponent : e + -52 = e - (52 : Nat) := by omega
      simp only [Nat.pow_zero, Nat.mul_one, Int.natCast_zero, Int.sub_zero] at unshifted
      simp only [UnpackedFloat.mul, one, sign, roundWithAccuracy, exponent, shifted, rounded,
        unshifted, Nat.ne_of_gt positive, dite_false]

theorem add_negZero (x : UnpackedFloat) : UnpackedFloat.add binary64 x (.zero .negative) = x := by
  cases x with
  | zero s =>
      cases s <;> rfl
  | _ =>
      rfl

/-! ## Floats -/

theorem unpack_one : (1.0 : Float).toModel.unpack = one := by
  rfl

theorem unpack_negZero : (-0.0 * 1.0 : Float).toModel.unpack = .zero .negative := by
  rfl

theorem mul_eq (x y : Float) :
    x * y = .ofModel (.pack (UnpackedFloat.mul binary64 x.toModel.unpack y.toModel.unpack)) :=
  rfl

theorem add_eq (x y : Float) :
    x + y = .ofModel (.pack (UnpackedFloat.add binary64 x.toModel.unpack y.toModel.unpack)) :=
  rfl

theorem ofModel_pack (x : Float) : .ofModel (.pack x.toModel.unpack) = x := by
  rcases x with ⟨⟨bits, valid⟩⟩
  have packed := pack_unpack_of_valid valid
  simp only [Float.Model.pack, Float.Model.unpack, packed]

/-- What the map of a base unit does to a finite float: nothing. -/
theorem mul_one_add_negZero {x : Float} (h : x.isFinite) : x * 1.0 + -0.0 * 1.0 = x := by
  have canonical : Canonical x.toModel.unpack := canonical_unpack h
  have product : x * 1.0 = x := by
    rw [mul_eq, unpack_one, mul_one canonical, ofModel_pack]
  calc
    x * 1.0 + -0.0 * 1.0 = x + -0.0 * 1.0 := by
      rw [product]
    _ = .ofModel (.pack (UnpackedFloat.add binary64 x.toModel.unpack (.zero .negative))) := by
      rw [add_eq, unpack_negZero]
    _ = x := by
      rw [add_negZero, ofModel_pack]

end Binary64
end RefFrame
