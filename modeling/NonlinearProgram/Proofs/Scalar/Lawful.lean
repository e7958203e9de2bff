import NonlinearProgram.Scalar

/-!
# Lawful scalars

What the verdicts and the translations of this library rely on in a number type: numbers are
ordered, a difference with a finite number is a number, one is neutral, and a positive finite
factor keeps the order. Nothing is said of rounding, so the machine's numbers are lawful as well as
the exact ones.
-/

namespace NonlinearProgram

open Scalar

/-- A scalar type whose comparisons, differences and products follow the rules of floating-point
arithmetic. -/
class LawfulScalar (α : Type) [Scalar α] : Prop where
  isNaN_zero : isNaN (0.0 : α) = false
  isNaN_infinity : isNaN (infinity : α) = false
  /-- What compares is a number. -/
  isNaN_of_atMost : ∀ {a b : α}, atMost a b = true → isNaN a = false ∧ isNaN b = false
  /-- Of two numbers, one is at most the other unless that is below it. -/
  atMost_eq_not_less : ∀ {a b : α}, isNaN a = false → isNaN b = false →
    atMost a b = !less b a
  /-- What is below something is a number. -/
  isNaN_of_less : ∀ {a b : α}, less a b = true → isNaN a = false ∧ isNaN b = false
  isNaN_sub_of_isFinite_right : ∀ {a b : α}, isNaN a = false → isFinite b = true →
    isNaN (a - b) = false
  isNaN_sub_of_isFinite_left : ∀ {a b : α}, isFinite a = true → isNaN b = false →
    isNaN (a - b) = false
  one_mul : ∀ a : α, 1.0 * a = a
  mul_atMost_mul : ∀ {a b s : α}, less 0.0 s = true → isFinite s = true → atMost a b = true →
    atMost (a * s) (b * s) = true

namespace Scalar

open LawfulScalar

variable {α : Type} [Scalar α] [LawfulScalar α]

theorem isNaN_of_isFinite {x : α} (h : isFinite x = true) : isNaN x = false := by
  unfold isFinite at h
  rw [Bool.and_eq_true] at h
  exact (isNaN_of_less h.2).1

/-- What is not a number is at most nothing, and nothing is at most it. -/
theorem atMost_eq_false_of_isNaN {a b : α} (h : isNaN b = true) : atMost a b = false := by
  cases hab : atMost a b with
  | false => rfl
  | true =>
      have hb := (isNaN_of_atMost hab).2
      rw [h] at hb
      cases hb

/-- A number that is not above a bound is at most the bound, where the bound is a number. -/
theorem atMost_eq_not_isNaN {a b : α} (ha : isNaN a = false) (hab : less b a = false) :
    atMost a b = !isNaN b := by
  cases hb : isNaN b with
  | true => exact atMost_eq_false_of_isNaN hb
  | false =>
      rw [atMost_eq_not_less ha hb, hab]

end Scalar

end NonlinearProgram
