import Mathlib.Algebra.Order.Ring.Rat
import Mathlib.Tactic.Linarith
import NonlinearProgram.Proofs.Scalar.Ordered
import NonlinearProgram.Scalar.Exact

/-!
# Exact scalars are lawful and ordered

Between fractions the operations and comparisons of an exact scalar are those of fractions. A
positive fraction as a factor stretches the line of exact scalars: fractions are multiplied, and
infinities and what is not a number stay what they are. So it keeps the order and the classes of
scalars, and it may be taken out of differences. The cases are told apart by constructors, so a
statement on exact scalars comes down to one on fractions and some on infinities.
-/

namespace NonlinearProgram.Exact

open Scalar

theorem zero_eq : (0.0 : Exact) = finite 0 := by decide +kernel

theorem one_eq : (1.0 : Exact) = finite 1 := by decide +kernel

@[simp] theorem finite_sub_finite (a b : Rat) : finite a - finite b = finite (a - b) := by
  change finite (a + -b) = finite (a - b)
  rw [sub_eq_add_neg]

@[simp] theorem finite_mul_finite (a b : Rat) : finite a * finite b = finite (a * b) := rfl

@[simp] theorem less_finite_finite (a b : Rat) : less (finite a) (finite b) = decide (a < b) := rfl

@[simp] theorem atMost_finite_finite (a b : Rat) :
    atMost (finite a) (finite b) = decide (a ≤ b) := by
  change (!decide (b < a)) = decide (a ≤ b)
  rw [← decide_not, decide_eq_decide, not_lt]

@[simp] theorem equal_finite_finite (a b : Rat) : equal (finite a) (finite b) = decide (a = b) := by
  change (finite a == finite b) = decide (a = b)
  by_cases h : a = b <;> simp [h]

theorem isNaN_eq_false_iff (a : Exact) : isNaN a = false ↔ a ≠ notANumber := by
  rw [← Bool.not_eq_true, isNaN_iff]

@[simp] theorem isNaN_finite (a : Rat) : isNaN (finite a) = false :=
  (isNaN_eq_false_iff _).2 nofun

theorem sign_of_pos {q : Rat} (h : 0 < q) : (finite q).sign = 1 :=
  Int.sign_eq_one_of_pos (Rat.num_pos.2 h)

theorem infinity_mul_of_pos {q : Rat} (h : 0 < q) : infinity * finite q = infinity := by
  change ofSign (1 * (finite q).sign) = infinity
  rw [sign_of_pos h]
  rfl

theorem negativeInfinity_mul_of_pos {q : Rat} (h : 0 < q) :
    negativeInfinity * finite q = negativeInfinity := by
  change ofSign (-1 * (finite q).sign) = negativeInfinity
  rw [sign_of_pos h]
  rfl

@[simp] theorem notANumber_mul (q : Rat) : notANumber * finite q = notANumber := by
  change ofSign (0 * (finite q).sign) = notANumber
  rw [zero_mul]
  rfl

theorem eq_finite_of_isScale {s : Exact} (hpos : less 0.0 s = true) (hfin : isFinite s = true) :
    ∃ q, s = finite q ∧ 0 < q := by
  obtain ⟨q, rfl⟩ := (isFinite_iff s).1 hfin
  rw [zero_eq, less_finite_finite, decide_eq_true_eq] at hpos
  exact ⟨q, rfl, hpos⟩

section Stretch

variable {q : Rat}

def stretch (q : Rat) : Exact → Exact
  | finite a => finite (a * q)
  | a => a

protected theorem mul_comm (a b : Exact) : a * b = b * a := by
  cases a with
  | finite a =>
      cases b with
      | finite b => exact congrArg finite (Rat.mul_comm a b)
      | notANumber | negativeInfinity | infinity => exact congrArg ofSign (Int.mul_comm _ _)
  | notANumber | negativeInfinity | infinity =>
      cases b with
      | finite b => exact congrArg ofSign (Int.mul_comm _ _)
      | notANumber | negativeInfinity | infinity => rfl

theorem mul_eq_stretch (hq : 0 < q) (a : Exact) : a * finite q = a.stretch q := by
  cases a with
  | notANumber => exact notANumber_mul q
  | negativeInfinity => exact negativeInfinity_mul_of_pos hq
  | finite a => rfl
  | infinity => exact infinity_mul_of_pos hq

theorem finite_mul_eq_stretch (hq : 0 < q) (a : Exact) : finite q * a = a.stretch q := by
  rw [Exact.mul_comm, mul_eq_stretch hq]

@[simp] theorem stretch_zero (q : Rat) : stretch q 0.0 = 0.0 := by
  rw [zero_eq, stretch, Rat.zero_mul]

@[simp] theorem stretch_infinity (q : Rat) : stretch q Scalar.infinity = Scalar.infinity := rfl

@[simp] theorem isNumber_stretch (q : Rat) (a : Exact) : (a.stretch q).isNumber = a.isNumber := by
  cases a with
  | notANumber | negativeInfinity | finite a | infinity => rfl

@[simp] theorem isNaN_stretch (q : Rat) (a : Exact) : isNaN (a.stretch q) = isNaN a := by
  cases a with
  | finite a => rw [stretch, isNaN_finite, isNaN_finite]
  | notANumber | negativeInfinity | infinity => rfl

@[simp] theorem isFinite_stretch (q : Rat) (a : Exact) : isFinite (a.stretch q) = isFinite a := by
  cases a with
  | notANumber | negativeInfinity | finite a | infinity => rfl

theorem less_stretch (hq : 0 < q) (a b : Exact) :
    less (a.stretch q) (b.stretch q) = less a b := by
  cases a with
  | finite a =>
      cases b with
      | finite b =>
          rw [stretch, stretch, less_finite_finite, less_finite_finite, decide_eq_decide,
            mul_lt_mul_iff_left₀ hq]
      | notANumber | negativeInfinity | infinity => rfl
  | notANumber | negativeInfinity | infinity =>
      cases b with
      | notANumber | negativeInfinity | finite b | infinity => rfl

theorem atMost_stretch (hq : 0 < q) (a b : Exact) :
    atMost (a.stretch q) (b.stretch q) = atMost a b := by
  change ((a.stretch q).isNumber && (b.stretch q).isNumber && !less (b.stretch q) (a.stretch q)) =
    (a.isNumber && b.isNumber && !less b a)
  rw [isNumber_stretch, isNumber_stretch, less_stretch hq]

theorem stretch_stretch (q r : Rat) (a : Exact) : (a.stretch q).stretch r = a.stretch (q * r) := by
  cases a with
  | finite a => rw [stretch, stretch, stretch, mul_assoc]
  | notANumber | negativeInfinity | infinity => rfl

@[simp] theorem stretch_one (a : Exact) : a.stretch 1 = a := by
  cases a with
  | finite a => rw [stretch, Rat.mul_one]
  | notANumber | negativeInfinity | infinity => rfl

theorem stretch_injective (hq : 0 < q) : Function.Injective (stretch q) := by
  refine Function.LeftInverse.injective (g := stretch q⁻¹) fun a => ?_
  rw [stretch_stretch, mul_inv_cancel₀ hq.ne', stretch_one]

theorem equal_stretch (hq : 0 < q) (a b : Exact) :
    equal (a.stretch q) (b.stretch q) = equal a b := by
  change ((a.stretch q).isNumber && a.stretch q == b.stretch q) = (a.isNumber && a == b)
  rw [isNumber_stretch, (stretch_injective hq).beq_eq]

theorem stretch_sub (q : Rat) (a b : Exact) : (a - b).stretch q = a.stretch q - b.stretch q := by
  cases a with
  | finite a =>
      cases b with
      | finite b => rw [finite_sub_finite, stretch, stretch, stretch, finite_sub_finite, sub_mul]
      | notANumber | negativeInfinity | infinity => rfl
  | notANumber | negativeInfinity | infinity =>
      cases b with
      | notANumber | negativeInfinity | finite b | infinity => rfl

end Stretch

instance : LawfulScalar Exact where
  isNaN_zero := by rw [zero_eq, isNaN_finite]
  isNaN_infinity := rfl
  isNaN_of_atMost := by
    intro a b h
    rw [isNaN_eq_false_iff, isNaN_eq_false_iff]
    cases a <;> cases b <;> try cases h
    all_goals exact ⟨nofun, nofun⟩
  atMost_eq_not_less := by
    intro a b ha hb
    rw [isNaN_eq_false_iff] at ha hb
    cases a <;> cases b <;> first | rfl | exact absurd rfl ha | exact absurd rfl hb
  isNaN_of_less := by
    intro a b h
    rw [isNaN_eq_false_iff, isNaN_eq_false_iff]
    cases a <;> cases b <;> try cases h
    all_goals exact ⟨nofun, nofun⟩
  isNaN_sub_of_isFinite_right := by
    intro a b ha hb
    obtain ⟨q, rfl⟩ := (isFinite_iff b).1 hb
    cases a with
    | notANumber => cases ha
    | negativeInfinity => rfl
    | finite c => rw [finite_sub_finite, isNaN_finite]
    | infinity => rfl
  isNaN_sub_of_isFinite_left := by
    intro a b ha hb
    obtain ⟨q, rfl⟩ := (isFinite_iff a).1 ha
    cases b with
    | notANumber => cases hb
    | negativeInfinity => rfl
    | finite c => rw [finite_sub_finite, isNaN_finite]
    | infinity => rfl
  one_mul := by
    intro a
    rw [one_eq]
    cases a with
    | finite q => rw [finite_mul_finite, Rat.one_mul]
    | notANumber => rfl
    | negativeInfinity => rfl
    | infinity => rfl
  mul_atMost_mul := by
    intro a b s hpos hfin hab
    obtain ⟨q, rfl, hq⟩ := eq_finite_of_isScale hpos hfin
    rw [mul_eq_stretch hq, mul_eq_stretch hq, atMost_stretch hq, hab]

theorem atMost_of_less {a b : Exact} (h : less a b = true) : atMost a b = true := by
  cases a with
  | notANumber => cases h
  | infinity => cases b <;> cases h
  | negativeInfinity =>
      cases b with
      | notANumber | negativeInfinity => cases h
      | finite r | infinity => rfl
  | finite q =>
      cases b with
      | notANumber | negativeInfinity => cases h
      | infinity => rfl
      | finite r =>
          rw [less_finite_finite, decide_eq_true_eq] at h
          rw [atMost_finite_finite, decide_eq_true_eq]
          exact h.le

theorem atMost_trans {a b c : Exact} (hab : atMost a b = true) (hbc : atMost b c = true) :
    atMost a c = true := by
  cases a with
  | notANumber => cases hab
  | negativeInfinity =>
      cases c with
      | notANumber => cases b <;> cases hbc
      | negativeInfinity | finite r | infinity => rfl
  | infinity =>
      cases b with
      | notANumber | negativeInfinity | finite r => cases hab
      | infinity => exact hbc
  | finite q =>
      cases b with
      | notANumber | negativeInfinity => cases hab
      | infinity =>
          cases c with
          | notANumber | negativeInfinity | finite r => cases hbc
          | infinity => rfl
      | finite r =>
          cases c with
          | notANumber | negativeInfinity => cases hbc
          | infinity => rfl
          | finite t =>
              rw [atMost_finite_finite, decide_eq_true_eq] at *
              exact hab.trans hbc

theorem atMost_antisymm {a b : Exact} (hab : atMost a b = true) (hba : atMost b a = true) :
    a = b := by
  cases a with
  | notANumber => cases hab
  | negativeInfinity =>
      cases b with
      | negativeInfinity => rfl
      | notANumber | finite r | infinity => cases hba
  | infinity =>
      cases b with
      | infinity => rfl
      | notANumber | negativeInfinity | finite r => cases hab
  | finite q =>
      cases b with
      | notANumber | negativeInfinity => cases hab
      | infinity => cases hba
      | finite r =>
          rw [atMost_finite_finite, decide_eq_true_eq] at hab hba
          rw [le_antisymm hab hba]

theorem zero_less_sub {a b : Exact} (h : less a b = true) : less 0.0 (b - a) = true := by
  rw [zero_eq]
  cases a with
  | notANumber => cases h
  | infinity => cases b <;> cases h
  | negativeInfinity =>
      cases b with
      | notANumber | negativeInfinity => cases h
      | finite r => rfl
      | infinity => rfl
  | finite q =>
      cases b with
      | notANumber | negativeInfinity => cases h
      | infinity => rfl
      | finite r =>
          rw [less_finite_finite, decide_eq_true_eq] at h
          rw [finite_sub_finite, less_finite_finite, decide_eq_true_eq]
          exact sub_pos.2 h

instance : OrderedScalar Exact where
  atMost_of_less := atMost_of_less
  atMost_trans := atMost_trans
  atMost_infinity := by
    intro a ha
    cases a with
    | notANumber => cases ha
    | negativeInfinity | finite q | infinity => rfl
  zero_less_infinity := by
    rw [zero_eq]
    rfl
  eq_of_atMost := fun _ => atMost_antisymm
  zero_less_sub := zero_less_sub

end NonlinearProgram.Exact
