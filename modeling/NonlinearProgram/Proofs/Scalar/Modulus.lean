import NonlinearProgram.Proofs.Scalar.Fractions

/-!
# Moduli and differences

How far two exact scalars are apart is the modulus of their difference. Where an infinity takes part
it is infinite, or there is none: an infinity has no difference to itself. Differences keep the
order of what they are taken from and turn the order of what is taken away.
-/

namespace NonlinearProgram.Exact

open Scalar

variable {a b c d : Exact}

theorem isNaN_modulus_eq (a : Exact) : isNaN (modulus a) = isNaN a := by
  cases a with
  | finite q => rw [modulus_finite, isNaN_finite, isNaN_finite]
  | notANumber | negativeInfinity | infinity => rfl

theorem modulus_of_pos (h : less 0.0 a = true) : modulus a = a := by
  rw [zero_eq] at h
  cases a with
  | notANumber | negativeInfinity => cases h
  | infinity => rfl
  | finite q =>
      rw [less_finite_finite, decide_eq_true_eq] at h
      rw [modulus_finite, abs_of_pos h]

theorem zero_atMost_modulus (h : isNaN a = false) : atMost 0.0 (modulus a) = true := by
  rw [zero_eq]
  cases a with
  | notANumber => cases h
  | negativeInfinity | infinity => rfl
  | finite q => rw [modulus_finite, atMost_finite_finite, decide_eq_true_eq]; exact abs_nonneg q

theorem atMost_modulus (h : isNaN a = false) : atMost a (modulus a) = true := by
  cases a with
  | notANumber => cases h
  | negativeInfinity | infinity => rfl
  | finite q => rw [modulus_finite, atMost_finite_finite, decide_eq_true_eq]; exact le_abs_self q

theorem modulus_sub_comm (a b : Exact) : modulus (a - b) = modulus (b - a) := by
  cases a with
  | finite p =>
      cases b with
      | finite q =>
          rw [finite_sub_finite, finite_sub_finite, modulus_finite, modulus_finite, abs_sub_comm]
      | notANumber | negativeInfinity | infinity => rfl
  | notANumber | negativeInfinity | infinity =>
      cases b with
      | notANumber | negativeInfinity | finite q | infinity => rfl

theorem modulus_zero_sub (a : Exact) : modulus (0.0 - a) = modulus a := by
  rw [zero_eq]
  cases a with
  | finite q => rw [finite_sub_finite, zero_sub, modulus_finite, modulus_finite, abs_neg]
  | notANumber | negativeInfinity | infinity => rfl

theorem negativeInfinity_atMost (h : isNaN a = false) : atMost negativeInfinity a = true := by
  cases a with
  | notANumber => cases h
  | negativeInfinity | finite q | infinity => rfl

/-- A difference becomes no smaller when more is taken from or less is taken away. -/
theorem sub_atMost_sub (hab : atMost a b = true) (hdc : atMost d c = true)
    (hac : isNaN (a - c) = false) (hbd : isNaN (b - d) = false) :
    atMost (a - c) (b - d) = true := by
  -- Where an infinity takes part, one of the differences is the least or the largest number.
  cases a with
  | notANumber => cases hab
  | negativeInfinity =>
      cases c with
      | notANumber | negativeInfinity => cases hac
      | finite r | infinity => exact negativeInfinity_atMost hbd
  | infinity =>
      cases b with
      | notANumber | negativeInfinity | finite p => cases hab
      | infinity =>
          cases d with
          | notANumber | infinity => cases hbd
          | negativeInfinity | finite s => exact OrderedScalar.atMost_infinity hac
  | finite q =>
      cases b with
      | notANumber | negativeInfinity => cases hab
      | infinity =>
          cases d with
          | notANumber | infinity => cases hbd
          | negativeInfinity | finite s => exact OrderedScalar.atMost_infinity hac
      | finite p =>
          cases d with
          | notANumber => cases hdc
          | negativeInfinity => exact OrderedScalar.atMost_infinity hac
          | infinity =>
              cases c with
              | notANumber | negativeInfinity | finite r => cases hdc
              | infinity => rfl
          | finite s =>
              cases c with
              | notANumber | negativeInfinity => cases hdc
              | infinity => rfl
              | finite r =>
                  rw [atMost_finite_finite, decide_eq_true_eq] at hab hdc
                  rw [finite_sub_finite, finite_sub_finite, atMost_finite_finite, decide_eq_true_eq]
                  exact sub_le_sub hab hdc

end NonlinearProgram.Exact
