import NonlinearProgram.Proofs.Scalar.Exact
import NonlinearProgram.Proofs.Scalar.Machine

/-!
# Signed scalars

Taking a number away is adding its opposite, and the order of what is added is of no account. Both
are so for rounded sums as well: the machine's numbers are packed with a sign of their own, and
rounding looks at the sum only.
-/

namespace NonlinearProgram

open Scalar

/-- A lawful scalar type in which a difference is a sum with the opposite, in either order. -/
class SignedScalar (α : Type) [Scalar α] : Prop extends LawfulScalar α where
  sub_eq_add_neg : ∀ a b : α, a - b = a + -b
  add_comm : ∀ a b : α, a + b = b + a

instance : SignedScalar Exact where
  sub_eq_add_neg _ _ := rfl
  add_comm := by
    intro a b
    cases a with
    | notANumber => cases b <;> rfl
    | negativeInfinity => cases b <;> rfl
    | infinity => cases b <;> rfl
    | finite q =>
        cases b with
        | notANumber | negativeInfinity | infinity => rfl
        | finite r => exact congrArg Exact.finite (Rat.add_comm q r)

namespace Machine

open Float.Model Float.Model.UnpackedFloat

theorem parts_add (a b : Float) :
    parts (a + b) = (pack (UnpackedFloat.add .binary64 (parts a) (parts b))).unpack := rfl

theorem unpack_pack_neg {u : UnpackedFloat} (hu : Canonical u ∧ InRange u) :
    (pack u.neg).unpack = u.neg := by
  cases u with
  | notANumber => exact unpack_packedNaN
  | infinity s => exact unpack_packedInfinity (-s)
  | zero s => exact unpack_packedZero
  | finite s m e h =>
      have hc : Canonical (.finite (-s) m e h) := hu.1
      have hrange : e ≤ 971 := hu.2
      have hpacked := unpack_pack_finite hc
      rw [if_pos hrange] at hpacked
      exact hpacked

theorem parts_neg (a : Float) : parts (-a) = (parts a).neg := unpack_pack_neg (canonical_parts a)

theorem apply_neg (s : Sign) (n : Int) : (-s).apply n = -s.apply n := by
  cases s with
  | positive => rfl
  | negative => exact (Int.neg_neg n).symm

theorem sub_eq_add_neg (u v : UnpackedFloat) :
    UnpackedFloat.sub .binary64 u v = UnpackedFloat.add .binary64 u v.neg := by
  cases u with
  | notANumber => cases v <;> rfl
  | infinity s => cases v <;> rfl
  | zero s => cases v <;> rfl
  | finite s m e h =>
      cases v with
      | notANumber | infinity s' | zero s' => rfl
      | finite s' m' e' h' =>
          simp only [UnpackedFloat.sub, UnpackedFloat.add, UnpackedFloat.neg, apply_neg,
            Int.sub_eq_add_neg]

theorem add_comm (u v : UnpackedFloat) :
    UnpackedFloat.add .binary64 u v = UnpackedFloat.add .binary64 v u := by
  cases u with
  | notANumber => cases v <;> rfl
  | infinity s =>
      cases v with
      | notANumber | zero s' | finite s' m' e' h' => rfl
      | infinity s' => cases s <;> cases s' <;> rfl
  | zero s =>
      cases v with
      | notANumber | infinity s' | finite s' m' e' h' => rfl
      | zero s' => cases s <;> cases s' <;> rfl
  | finite s m e h =>
      cases v with
      | notANumber | infinity s' | zero s' => rfl
      | finite s' m' e' h' =>
          simp only [UnpackedFloat.add, min_comm e e', Int.add_comm (s.apply _)]

end Machine

instance : SignedScalar Float where
  sub_eq_add_neg a b := by
    apply Machine.parts_injective
    rw [Machine.parts_sub, Machine.parts_add, Machine.parts_neg, Machine.sub_eq_add_neg]
  add_comm a b := by
    apply Machine.parts_injective
    rw [Machine.parts_add, Machine.parts_add, Machine.add_comm]

end NonlinearProgram
