import NonlinearProgram.Proofs.Interval.Position
import NonlinearProgram.Proofs.Scalar.Exact

/-!
# A component and its ends

A component has a bound, a positive scale and a finite value. How far its scaled value is from a
scaled end tells whether the value respects the end, because a positive factor keeps signs and
leaves infinities what they are. What remains is which ends have to be looked at: an infinite end
is respected by every finite value unless the other end is the same infinity.
-/

namespace NonlinearProgram

open Scalar Exact

namespace Exact

variable {q : Rat}

theorem isFinite_mul (hq : 0 < q) (a : Exact) : isFinite (a * finite q) = isFinite a := by
  rw [mul_eq_stretch hq, isFinite_stretch]

theorem equal_mul_mul (hq : 0 < q) (a b : Exact) :
    equal (a * finite q) (b * finite q) = equal a b := by
  rw [mul_eq_stretch hq, mul_eq_stretch hq, equal_stretch hq]

end Exact

/-- A component of the constraints at a point where it has a finite value. -/
structure Component where
  bounds : Interval Exact
  scale : Rat
  scale_pos : 0 < scale
  value : Rat

namespace Component

def isEquality (c : Component) : Bool := c.bounds.isEquality

def aboveLower (c : Component) : Exact :=
  finite (c.scale * c.value) - c.bounds.lower * finite c.scale

def belowUpper (c : Component) : Exact :=
  c.bounds.upper * finite c.scale - finite (c.scale * c.value)

def Within (c : Component) : Prop := c.bounds.Encloses (finite c.value)

variable {c : Component}

/-- At a finite lower end the sign of the scaled difference tells whether the end is respected. -/
theorem aboveLower_nonneg_iff (h : isFinite c.bounds.lower = true) :
    atMost 0.0 c.aboveLower = true ↔ atMost c.bounds.lower (finite c.value) = true := by
  obtain ⟨l, hl⟩ := (isFinite_iff _).1 h
  rw [aboveLower, hl, zero_eq, finite_mul_finite, finite_sub_finite, atMost_finite_finite,
    atMost_finite_finite, decide_eq_true_eq, decide_eq_true_eq, sub_nonneg, mul_comm l,
    mul_le_mul_iff_right₀ c.scale_pos]

theorem belowUpper_nonneg_iff (h : isFinite c.bounds.upper = true) :
    atMost 0.0 c.belowUpper = true ↔ atMost (finite c.value) c.bounds.upper = true := by
  obtain ⟨u, hu⟩ := (isFinite_iff _).1 h
  rw [belowUpper, hu, zero_eq, finite_mul_finite, finite_sub_finite, atMost_finite_finite,
    atMost_finite_finite, decide_eq_true_eq, decide_eq_true_eq, sub_nonneg, mul_comm u,
    mul_le_mul_iff_right₀ c.scale_pos]

theorem lower_eq_upper (h : c.isEquality = true) : c.bounds.lower = c.bounds.upper :=
  eq_of_beq (Bool.and_eq_true_iff.1 h).2

/-- The scaled difference of an equality is zero where the value is the one it has to be. Where that
is infinite, neither is so. -/
theorem aboveLower_eq_zero_iff (h : c.isEquality = true) :
    equal c.aboveLower 0.0 = true ↔ c.Within := by
  have hends := lower_eq_upper h
  unfold aboveLower Within Interval.Encloses
  rw [← hends, zero_eq]
  cases hl : c.bounds.lower with
  | notANumber =>
      have hnumber := (LawfulScalar.isNaN_of_atMost c.bounds.ordered).1
      rw [hl] at hnumber
      cases hnumber
  | negativeInfinity =>
      rw [negativeInfinity_mul_of_pos c.scale_pos]
      constructor
      · intro h
        cases h
      · rintro ⟨-, h⟩
        cases h
  | finite l =>
      rw [finite_mul_finite, finite_sub_finite, equal_finite_finite, atMost_finite_finite,
        atMost_finite_finite, decide_eq_true_eq, decide_eq_true_eq, decide_eq_true_eq, sub_eq_zero,
        mul_comm l, mul_right_inj' c.scale_pos.ne', le_antisymm_iff, and_comm]
  | infinity =>
      -- A finite value less infinity is minus infinity, and the value is not at least infinity.
      rw [infinity_mul_of_pos c.scale_pos]
      constructor
      · intro h
        cases h
      · rintro ⟨h, -⟩
        cases h

/-- A lower end that is not finite is respected, unless it is the only admissible value. -/
theorem atMost_lower_of_infinite (h : c.isEquality = true → isFinite c.bounds.lower = true)
    (hlower : isFinite c.bounds.lower = false) :
    atMost c.bounds.lower (finite c.value) = true := by
  have hordered := c.bounds.ordered
  unfold isEquality Interval.isEquality at h
  cases hl : c.bounds.lower with
  | notANumber =>
      rw [hl] at hordered
      cases hordered
  | negativeInfinity => rfl
  | finite l =>
      rw [hl] at hlower
      cases hlower
  | infinity =>
      rw [hl] at hordered h
      cases hu : c.bounds.upper with
      | infinity =>
          rw [hu] at h
          cases h rfl
      | notANumber | negativeInfinity | finite u =>
          rw [hu] at hordered
          cases hordered

theorem atMost_upper_of_infinite (h : c.isEquality = true → isFinite c.bounds.lower = true)
    (hupper : isFinite c.bounds.upper = false) :
    atMost (finite c.value) c.bounds.upper = true := by
  have hordered := c.bounds.ordered
  unfold isEquality Interval.isEquality at h
  cases hu : c.bounds.upper with
  | notANumber =>
      rw [hu] at hordered
      rw [atMost_eq_false_of_isNaN rfl] at hordered
      cases hordered
  | infinity => rfl
  | finite u =>
      rw [hu] at hupper
      cases hupper
  | negativeInfinity =>
      rw [hu] at hordered h
      cases hl : c.bounds.lower with
      | negativeInfinity =>
          rw [hl] at h
          cases h rfl
      | notANumber | infinity | finite u =>
          rw [hl] at hordered
          cases hordered

/-- The finite ends are all there is to respect, unless the only admissible value is infinite. -/
theorem within_iff (h : c.isEquality = true → isFinite c.bounds.lower = true) :
    c.Within ↔ (isFinite c.bounds.lower = true → atMost 0.0 c.aboveLower = true) ∧
      (isFinite c.bounds.upper = true → atMost 0.0 c.belowUpper = true) := by
  constructor
  · rintro ⟨hlower, hupper⟩
    exact ⟨fun hfin => (aboveLower_nonneg_iff hfin).2 hlower,
      fun hfin => (belowUpper_nonneg_iff hfin).2 hupper⟩
  · rintro ⟨hlower, hupper⟩
    refine ⟨?_, ?_⟩
    · by_cases hfin : isFinite c.bounds.lower = true
      · exact (aboveLower_nonneg_iff hfin).1 (hlower hfin)
      · exact atMost_lower_of_infinite h (Bool.eq_false_iff.2 hfin)
    · by_cases hfin : isFinite c.bounds.upper = true
      · exact (belowUpper_nonneg_iff hfin).1 (hupper hfin)
      · exact atMost_upper_of_infinite h (Bool.eq_false_iff.2 hfin)

/-- An infinite value cannot be the only admissible one of a component that has it. -/
theorem isFinite_lower_of_within (h : c.isEquality = true) (hwithin : c.Within) :
    isFinite c.bounds.lower = true := by
  obtain ⟨hlower, hupper⟩ := hwithin
  rw [← lower_eq_upper h] at hupper
  cases hl : c.bounds.lower with
  | finite l => rfl
  | notANumber =>
      rw [hl] at hlower
      cases hlower
  | negativeInfinity =>
      rw [hl] at hupper
      cases hupper
  | infinity =>
      rw [hl] at hlower
      cases hlower

def asEquality (split : Bool) (c : Component) : Bool := !split && c.isEquality

def asLower (split : Bool) (c : Component) : Bool :=
  (split || !c.isEquality) && isFinite c.bounds.lower

def asUpper (split : Bool) (c : Component) : Bool :=
  (split || !c.isEquality) && isFinite c.bounds.upper

/-- The differences that a form looks at are as they have to be. -/
def Respects (split : Bool) (c : Component) : Prop :=
  (c.asEquality split = true → equal c.aboveLower 0.0 = true) ∧
    (c.asLower split = true → atMost 0.0 c.aboveLower = true) ∧
    (c.asUpper split = true → atMost 0.0 c.belowUpper = true)

theorem respects_false_iff : c.Respects false ↔ c.Within := by
  unfold Respects asEquality asLower asUpper
  by_cases h : c.isEquality = true
  · rw [h, aboveLower_eq_zero_iff h]
    simp
  · have hfin : c.isEquality = true → isFinite c.bounds.lower = true := fun h' => absurd h' h
    rw [Bool.not_eq_true] at h
    rw [h, within_iff hfin]
    simp

theorem respects_true_iff :
    c.Within ↔ c.Respects true ∧ (c.isEquality = true → isFinite c.bounds.lower = true) := by
  have hrespects : c.Respects true ↔
      (isFinite c.bounds.lower = true → atMost 0.0 c.aboveLower = true) ∧
        (isFinite c.bounds.upper = true → atMost 0.0 c.belowUpper = true) := by
    unfold Respects asEquality asLower asUpper
    simp
  rw [hrespects]
  constructor
  · intro hwithin
    have hfin := fun h => isFinite_lower_of_within h hwithin
    exact ⟨(within_iff hfin).1 hwithin, hfin⟩
  · rintro ⟨hends, hfin⟩
    exact (within_iff hfin).2 hends

end Component

end NonlinearProgram
