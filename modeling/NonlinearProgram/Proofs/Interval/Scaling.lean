import NonlinearProgram.Proofs.Interval
import NonlinearProgram.Proofs.Scalar.Exact

/-!
# Scaled intervals

A positive fraction as a scale stretches both ends of an interval. Stretching keeps the order, so a
value is found on the same side of an interval as the stretched value of the stretched interval, and
distances and projections are stretched as well: what is measured against a scaled interval tells
what would be measured against the interval itself. No other scalar is a scale.
-/

namespace NonlinearProgram

open Scalar Exact

section Order

variable {α : Type} [Scalar α] {f : α → α}

theorem larger_map (hf : ∀ a b, less (f a) (f b) = less a b) (a b : α) :
    larger (f a) (f b) = f (larger a b) := by
  rw [larger, larger, hf, apply_ite f]

theorem smaller_map (hf : ∀ a b, less (f a) (f b) = less a b) (a b : α) :
    smaller (f a) (f b) = f (smaller a b) := by
  rw [smaller, smaller, hf, apply_ite f]

end Order

namespace Interval

theorem isScale_iff {s : Exact} : isScale s = true ↔ ∃ q, s = finite q ∧ 0 < q := by
  constructor
  · intro h
    obtain ⟨hpos, hfin⟩ := Bool.and_eq_true_iff.1 h
    exact eq_finite_of_isScale hpos hfin
  · rintro ⟨q, rfl, hq⟩
    rw [isScale, zero_eq, less_finite_finite, decide_eq_true hq]
    rfl

theorem scaled_eq_error (i : Interval Exact) {s : Exact} (hs : ∀ q : Rat, 0 < q → s ≠ finite q) :
    i.scaled s = .error (.intervalScale s) := by
  have hscale : ¬ isScale s = true := by
    intro h
    obtain ⟨q, rfl, hq⟩ := isScale_iff.1 h
    exact hs q hq rfl
  unfold scaled
  rw [if_neg hscale]

def stretch (i : Interval Exact) (q : Rat) (hq : 0 < q) : Interval Exact where
  lower := i.lower.stretch q
  upper := i.upper.stretch q
  ordered := (atMost_stretch hq _ _).trans i.ordered

variable (i : Interval Exact) {q r : Rat} (hq : 0 < q)

theorem scaled_eq_stretch : i.scaled (finite q) = .ok (i.stretch q hq) := by
  unfold scaled
  rw [if_pos (isScale_iff.2 ⟨q, rfl, hq⟩), mul_eq_stretch hq, mul_eq_stretch hq]
  exact (i.stretch q hq).between_ends

theorem stretch_one : i.stretch 1 zero_lt_one = i :=
  eq_of_ends (Exact.stretch_one i.lower) (Exact.stretch_one i.upper)

theorem stretch_stretch (hr : 0 < r) :
    (i.stretch q hq).stretch r hr = i.stretch (q * r) (mul_pos hq hr) :=
  eq_of_ends (Exact.stretch_stretch q r i.lower) (Exact.stretch_stretch q r i.upper)

theorem isEquality_stretch : (i.stretch q hq).isEquality = i.isEquality := equal_stretch hq _ _

theorem isBoundedBelow_stretch : (i.stretch q hq).isBoundedBelow = i.isBoundedBelow :=
  less_stretch hq negativeInfinity i.lower

theorem isBoundedAbove_stretch : (i.stretch q hq).isBoundedAbove = i.isBoundedAbove :=
  less_stretch hq i.upper .infinity

theorem distance_stretch (v : Exact) :
    (i.stretch q hq).distance (v.stretch q) = (i.distance v).stretch q := by
  simp only [distance, stretch, isNaN_stretch, less_stretch hq, ← stretch_sub,
    apply_ite (Exact.stretch q), stretch_zero, stretch_infinity]

theorem project_stretch (v : Exact) :
    (i.stretch q hq).project (v.stretch q) = (i.project v).stretch q := by
  rw [project, project, stretch, larger_map (less_stretch hq), smaller_map (less_stretch hq)]

theorem contains_stretch (v t : Exact) :
    (i.stretch q hq).contains (v.stretch q) (t.stretch q) = i.contains v t := by
  rw [contains, distance_stretch, atMost_stretch hq, contains]

/-- What an interval shares with its copy under a scale: which ends there are, and all that is
measured against it, up to the scale. -/
structure ScaledCopy (i : Interval Exact) (s : Exact) (j : Interval Exact) : Prop where
  isFinite_lower : isFinite j.lower = isFinite i.lower
  isFinite_upper : isFinite j.upper = isFinite i.upper
  isEquality : j.isEquality = i.isEquality
  isBoundedBelow : j.isBoundedBelow = i.isBoundedBelow
  isBoundedAbove : j.isBoundedAbove = i.isBoundedAbove
  distance : ∀ v, j.distance (s * v) = s * i.distance v
  project : ∀ v, j.project (s * v) = s * i.project v
  contains : ∀ v, j.contains (s * v) 0.0 = i.contains v 0.0

theorem scaledCopy_stretch : i.ScaledCopy (finite q) (i.stretch q hq) where
  isFinite_lower := isFinite_stretch q i.lower
  isFinite_upper := isFinite_stretch q i.upper
  isEquality := i.isEquality_stretch hq
  isBoundedBelow := i.isBoundedBelow_stretch hq
  isBoundedAbove := i.isBoundedAbove_stretch hq
  distance v := by rw [finite_mul_eq_stretch hq, finite_mul_eq_stretch hq, distance_stretch]
  project v := by rw [finite_mul_eq_stretch hq, finite_mul_eq_stretch hq, project_stretch]
  contains v := by
    have hcontains := i.contains_stretch hq v 0.0
    rw [stretch_zero] at hcontains
    rw [finite_mul_eq_stretch hq, hcontains]

/-- **Scaling commutes with measuring.** Every interval, its ends finite or not, can be scaled by
every positive fraction. Its copy has the same kinds of ends, and distances from it, projections
onto it and membership of scaled values are the scaled ones of the interval, infinities and what is
not a number among the values. One is neutral, one scale after the other is their product, and
every scalar that is not a positive fraction is refused as a scale. -/
theorem scaledCopy_scaled :
    (∀ q : Rat, 0 < q → ∃ j, i.scaled (finite q) = .ok j ∧ i.ScaledCopy (finite q) j ∧
      ∀ r : Rat, 0 < r → j.scaled (finite r) = i.scaled (finite q * finite r)) ∧
    i.scaled 1.0 = .ok i ∧
    ∀ s : Exact, (∀ q : Rat, 0 < q → s ≠ finite q) →
      i.scaled s = .error (.intervalScale s) ∧
        (Error.intervalScale s).kind = .invalidScale := by
  refine ⟨fun q hq => ⟨i.stretch q hq, i.scaled_eq_stretch hq, i.scaledCopy_stretch hq, ?product⟩,
    ?neutral, fun s hs => ⟨i.scaled_eq_error hs, rfl⟩⟩
  case product =>
    intro r hr
    rw [scaled_eq_stretch _ hr, stretch_stretch, finite_mul_finite, scaled_eq_stretch]
  case neutral =>
    rw [one_eq, i.scaled_eq_stretch zero_lt_one, stretch_one]

def halfLine : Interval Exact := ⟨.negativeInfinity, finite 1, rfl⟩

theorem scaledCopy_scaled_halfLine :
    (0 : Rat) < 2 ∧ (0 : Rat) < 3 ∧
    (∃ j, halfLine.scaled (finite 2) = .ok j ∧ j.isBoundedBelow = false ∧
      j.distance (finite 2 * finite 4) = finite 6 ∧
      j.scaled (finite 3) = halfLine.scaled (finite 2 * finite 3)) ∧
    (∀ q : Rat, 0 < q → Exact.infinity ≠ finite q) ∧
    halfLine.scaled .infinity = .error (.intervalScale .infinity) := by
  have htwo : (0 : Rat) < 2 := by norm_num
  have hthree : (0 : Rat) < 3 := by norm_num
  have hinfinity : ∀ q : Rat, 0 < q → Exact.infinity ≠ finite q := fun _ _ => nofun
  obtain ⟨hscale, -, hrefuse⟩ := scaledCopy_scaled halfLine
  obtain ⟨j, hj, hcopy, hproduct⟩ := hscale 2 htwo
  refine ⟨htwo, hthree, ⟨j, hj, hcopy.isBoundedBelow, ?_, hproduct 3 hthree⟩, hinfinity,
    (hrefuse .infinity hinfinity).1⟩
  rw [hcopy.distance]
  decide +kernel

end Interval

end NonlinearProgram
