import NonlinearProgram.Proofs.Scalar.Difference
import NonlinearProgram.Proofs.Scalar.Exact

/-!
# Numbers taken from themselves

A number less itself is zero where it is finite, and no number where it is not: two infinities have
no difference. No rounding is involved, so this holds of the machine's numbers as well, where the
zero is the positive one. It tells finite entries from others by comparing an array with itself.
-/

namespace NonlinearProgram

open Scalar

/-- An ordered scalar type in which finite numbers, and only these, cancel, and in which what is not
a number stays so. -/
class CancellingScalar (α : Type) [Scalar α] : Prop extends OrderedScalar α where
  zero_less_one : less (0.0 : α) 1.0 = true
  sub_self : ∀ {a : α}, isFinite a = true → a - a = 0.0
  isNaN_sub_self : ∀ {a : α}, isFinite a = false → isNaN (a - a) = true
  modulus_zero : modulus (0.0 : α) = 0.0
  isNaN_modulus : ∀ {a : α}, isNaN a = true → isNaN (modulus a) = true
  /-- Zero is divided by infinity as well. -/
  zero_div : ∀ {a : α}, less 0.0 a = true → 0.0 / a = 0.0
  isNaN_div : ∀ {a b : α}, isNaN a = true → isNaN (a / b) = true

namespace Exact

instance : CancellingScalar Exact where
  zero_less_one := by
    rw [zero_eq, one_eq]
    rfl
  sub_self := by
    intro a ha
    obtain ⟨q, rfl⟩ := (isFinite_iff a).1 ha
    rw [finite_sub_finite, sub_self, zero_eq]
  isNaN_sub_self := by
    intro a ha
    cases a with
    | finite q => cases ha
    | notANumber | negativeInfinity | infinity => rfl
  modulus_zero := by
    rw [zero_eq]
    rfl
  isNaN_modulus := by
    intro a ha
    rw [(isNaN_iff a).1 ha]
    rfl
  zero_div := by
    intro a ha
    rw [zero_eq] at *
    cases a with
    | notANumber => cases ha
    | negativeInfinity => cases ha
    | infinity => rfl
    | finite q =>
        rw [less_finite_finite, decide_eq_true_eq] at ha
        change (if q = 0 then _ else finite (0 / q)) = _
        rw [if_neg ha.ne', zero_div]
  isNaN_div := by
    intro a b ha
    rw [(isNaN_iff a).1 ha]
    cases b with
    | notANumber | negativeInfinity | infinity => rfl
    | finite q =>
        change isNaN (ofSign (0 * _)) = true
        rw [zero_mul]
        rfl

end Exact

namespace Machine

open Float.Model Float.Model.UnpackedFloat

theorem parts_modulus (a : Float) : parts (modulus a) = (pack (parts a).abs).unpack := rfl

theorem parts_div (a b : Float) :
    parts (a / b) = (pack (UnpackedFloat.div .binary64 (parts a) (parts b))).unpack := rfl

theorem parts_pack_zero (s : Sign) : (pack (.zero s)).unpack = .zero s := unpack_packedZero

theorem sub_self_of_isFinite {u : UnpackedFloat} (h : u.isFinite = true) :
    UnpackedFloat.sub .binary64 u u = .zero .positive := by
  cases u with
  | notANumber | infinity s => cases h
  | zero s => cases s <;> rfl
  | finite s m e hm =>
      simp only [UnpackedFloat.sub, min_self, Int.sub_self]
      rfl

theorem sub_self_of_not_isFinite {u : UnpackedFloat} (h : u.isFinite = false) :
    (UnpackedFloat.sub .binary64 u u).isNaN = true := by
  cases u with
  | notANumber => rfl
  | infinity s => cases s <;> rfl
  | zero s | finite s m e hm => cases h

theorem zero_div_of_pos {u : UnpackedFloat} (h : (UnpackedFloat.zero .positive).lt u = true) :
    UnpackedFloat.div .binary64 (.zero .positive) u = .zero .positive := by
  cases u with
  | notANumber => cases h
  | zero s => cases h
  | infinity s => cases s <;> first | rfl | cases h
  | finite s m e hm => cases s <;> first | rfl | cases h

instance : CancellingScalar Float where
  zero_less_one := by
    rw [less_eq, parts_zero, parts_one]
    rfl
  sub_self := by
    intro a ha
    rw [isFinite_eq] at ha
    apply parts_injective
    rw [parts_sub, sub_self_of_isFinite ha, parts_pack_zero, parts_zero]
  isNaN_sub_self := by
    intro a ha
    rw [isFinite_eq] at ha
    rw [isNaN_eq, parts_sub]
    exact (isNaN_unpack_pack _).trans (sub_self_of_not_isFinite ha)
  modulus_zero := by
    apply parts_injective
    rw [parts_modulus, parts_zero]
    exact parts_pack_zero .positive
  isNaN_modulus := by
    intro a ha
    rw [isNaN_eq] at ha
    rw [isNaN_eq, parts_modulus]
    refine (isNaN_unpack_pack _).trans ?_
    cases h : parts a with
    | notANumber => rfl
    | infinity s | zero s | finite s m e hm =>
        rw [h] at ha
        cases ha
  zero_div := by
    intro a ha
    rw [less_eq, parts_zero] at ha
    apply parts_injective
    rw [parts_div, parts_zero, zero_div_of_pos ha, parts_pack_zero]
  isNaN_div := by
    intro a b ha
    rw [isNaN_eq] at ha
    rw [isNaN_eq, parts_div]
    refine (isNaN_unpack_pack _).trans ?_
    cases h : parts a with
    | notANumber => cases parts b <;> rfl
    | infinity s | zero s | finite s m e hm =>
        rw [h] at ha
        cases ha

end Machine

end NonlinearProgram
