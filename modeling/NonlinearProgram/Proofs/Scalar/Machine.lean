import NonlinearProgram.Proofs.Scalar.Lawful
import NonlinearProgram.Proofs.Scalar.Packing
import NonlinearProgram.Proofs.Scalar.Product
import NonlinearProgram.Scalar.Machine

/-!
# The machine's scalars are lawful

Comparisons and arithmetic of the machine's numbers are those of their unpacked parts, so the laws
come down to statements on signs, mantissas and exponents. A product may overflow, but it does so
in order.
-/

namespace NonlinearProgram.Machine

open Float.Model

def parts (x : Float) : UnpackedFloat := x.toModel.unpack

theorem parts_infinity : parts Scalar.infinity = .infinity .positive := by
  with_unfolding_all rfl

theorem parts_neg_infinity : parts (-Scalar.infinity) = .infinity .negative := by
  with_unfolding_all rfl

theorem parts_zero :
    parts (@OfScientific.ofScientific Float Scalar.toOfScientific 0 true 1) = .zero .positive := by
  with_unfolding_all rfl

theorem parts_one : parts (@OfScientific.ofScientific Float Scalar.toOfScientific 10 true 1) =
    .finite .positive (2 ^ 52) (-52) (Nat.two_pow_pos 52) := by
  with_unfolding_all rfl

theorem less_eq (a b : Float) : Scalar.less a b = (parts a).lt (parts b) := by
  change decide (decide (a.toModel < b.toModel) = true) = _
  rw [Bool.decide_eq_true, Bool.eq_iff_iff, decide_eq_true_iff]
  rfl

theorem atMost_eq (a b : Float) : Scalar.atMost a b = (parts a).le (parts b) := by
  change decide (decide (a.toModel ≤ b.toModel) = true) = _
  rw [Bool.decide_eq_true, Bool.eq_iff_iff, decide_eq_true_iff]
  rfl

theorem parts_mul (a b : Float) :
    parts (a * b) = (pack (UnpackedFloat.mul .binary64 (parts a) (parts b))).unpack := rfl

theorem parts_sub (a b : Float) :
    parts (a - b) = (pack (UnpackedFloat.sub .binary64 (parts a) (parts b))).unpack := rfl

theorem canonical_parts (x : Float) : Canonical (parts x) ∧ InRange (parts x) :=
  canonical_unpack _

theorem parts_injective {a b : Float} (h : parts a = parts b) : a = b := by
  have ha := pack_unpack a.toModel
  have hb := pack_unpack b.toModel
  unfold parts at h
  rw [h, hb] at ha
  cases a
  cases b
  exact congrArg Float.ofModel ha.symm

theorem isNaN_eq (x : Float) : Scalar.isNaN x = (parts x).isNaN := by
  change (!((parts x).compare (parts x) == some .eq)) = _
  cases parts x with
  | notANumber => rfl
  | infinity s | zero s | finite s m e h =>
      rw [compare_self rfl]
      rfl

theorem isFinite_eq (x : Float) : Scalar.isFinite x = (parts x).isFinite := by
  unfold Scalar.isFinite
  rw [less_eq, less_eq, parts_infinity, parts_neg_infinity]
  cases parts x with
  | notANumber => rfl
  | infinity s => cases s <;> rfl
  | zero s => rfl
  | finite s m e h => cases s <;> rfl

theorem isNaN_roundWithAccuracy (s : UnpackedFloat.Sign) (m : Nat) (e : Int)
    (accuracy : UnpackedFloat.Accuracy) :
    (UnpackedFloat.roundWithAccuracy .binary64 s m e accuracy).isNaN = false := by
  unfold UnpackedFloat.roundWithAccuracy
  simp only
  split
  · rfl
  · rfl

theorem isNaN_normalize (m e : Int) (s : UnpackedFloat.Sign) :
    (UnpackedFloat.normalize .binary64 m e s).isNaN = false := by
  unfold UnpackedFloat.normalize
  split
  · exact isNaN_roundWithAccuracy _ _ _ _
  · rfl
  · exact isNaN_roundWithAccuracy _ _ _ _

theorem isNaN_eq_false_of_isFinite {u : UnpackedFloat} (h : u.isFinite = true) :
    u.isNaN = false := by
  cases u with
  | notANumber => cases h
  | infinity s | zero s | finite s m e hm => rfl

theorem isNaN_sub {u v : UnpackedFloat} (hu : u.isNaN = false) (hv : v.isNaN = false)
    (h : u.isFinite = true ∨ v.isFinite = true) :
    (UnpackedFloat.sub .binary64 u v).isNaN = false := by
  cases u with
  | notANumber => cases hu
  | infinity s =>
      cases v with
      | notANumber => cases hv
      | infinity s' => rcases h with h | h <;> cases h
      | zero s' => rfl
      | finite s' m' e' h' => rfl
  | zero s =>
      cases v with
      | notANumber => cases hv
      | infinity s' => rfl
      | zero s' => cases s <;> cases s' <;> rfl
      | finite s' m' e' h' => rfl
  | finite s m e hm =>
      cases v with
      | notANumber => cases hv
      | infinity s' => rfl
      | zero s' => rfl
      | finite s' m' e' h' => exact isNaN_normalize _ _ _

theorem isNaN_parts_sub {a b : Float} (ha : (parts a).isNaN = false) (hb : (parts b).isNaN = false)
    (h : (parts a).isFinite = true ∨ (parts b).isFinite = true) :
    Scalar.isNaN (a - b) = false := by
  rw [isNaN_eq, parts_sub]
  exact (isNaN_unpack_pack _).trans (isNaN_sub ha hb h)

theorem parts_of_isScale {s : Float} (hpos : (UnpackedFloat.zero .positive).lt (parts s) = true)
    (hfin : (parts s).isFinite = true) : ∃ m e h, parts s = .finite .positive m e h := by
  cases hs : parts s with
  | notANumber =>
      rw [hs] at hfin
      cases hfin
  | infinity sign =>
      rw [hs] at hfin
      cases hfin
  | zero sign =>
      rw [hs] at hpos
      cases hpos
  | finite sign m e h =>
      cases sign with
      | positive => exact ⟨m, e, h, rfl⟩
      | negative =>
          rw [hs] at hpos
          cases hpos

/-- A factor that is positive and finite makes nothing that is not a number of a number. -/
theorem isNaN_mul {u : UnpackedFloat} {m : Nat} {e : Int} {h : 0 < m} (hu : u.isNaN = false) :
    (UnpackedFloat.mul .binary64 u (.finite .positive m e h)).isNaN = false := by
  cases u with
  | notANumber => cases hu
  | infinity s => rfl
  | zero s => rfl
  | finite s' m' e' h' => exact isNaN_roundWithAccuracy _ _ _ _

theorem canonical_mul {u : UnpackedFloat} {m : Nat} {e : Int} {h : 0 < m} (hu : Canonical u)
    (hc : Canonical (.finite .positive m e h)) :
    Canonical (UnpackedFloat.mul .binary64 u (.finite .positive m e h)) := by
  cases u with
  | notANumber => trivial
  | infinity s => trivial
  | zero s => trivial
  | finite s' m' e' h' => exact (rank_mul hu rfl hc).1

theorem infinity_or_isFinite {u : UnpackedFloat} (hu : u.isNaN = false) :
    u = .infinity .negative ∨ u = .infinity .positive ∨ u.isFinite = true := by
  cases u with
  | notANumber => cases hu
  | infinity s =>
      cases s with
      | negative => exact .inl rfl
      | positive => exact .inr (.inl rfl)
  | zero s => exact .inr (.inr rfl)
  | finite s m e h => exact .inr (.inr rfl)

/-- Multiplying with a positive finite factor keeps the order of ranks. Infinities stay what they
are, and products of finite numbers are rounded in order. -/
theorem rank_mul_mono {u v : UnpackedFloat} {m : Nat} {e : Int} {h : 0 < m}
    (hu : Canonical u ∧ InRange u) (hv : Canonical v ∧ InRange v) (hun : u.isNaN = false)
    (hvn : v.isNaN = false) (hc : Canonical (.finite .positive m e h)) (hle : rank u ≤ rank v) :
    rank (pack (UnpackedFloat.mul .binary64 u (.finite .positive m e h))).unpack ≤
      rank (pack (UnpackedFloat.mul .binary64 v (.finite .positive m e h))).unpack := by
  rw [rank_unpack_pack (canonical_mul hu.1 hc), rank_unpack_pack (canonical_mul hv.1 hc)]
  rcases infinity_or_isFinite hun with rfl | rfl | huf
  · -- Minus infinity has the least rank there is after packing.
    change max _ (min (-(2047 * 2 ^ 52)) _) ≤ _
    omega
  · rcases infinity_or_isFinite hvn with rfl | rfl | hvf
    · exact absurd hle (by decide)
    · exact le_refl _
    · have hbound := rank_lt_of_isFinite hv.1 hv.2 hvf
      change 2047 * 2 ^ 52 ≤ rank v at hle
      omega
  · rcases infinity_or_isFinite hvn with rfl | rfl | hvf
    · have hbound := rank_lt_of_isFinite hu.1 hu.2 huf
      change rank u ≤ -(2047 * 2 ^ 52) at hle
      omega
    · change _ ≤ max _ (min (2047 * 2 ^ 52) _)
      omega
    · have hmagnitude := magnitude_mono hu.1 hv.1 huf hvf hle
      have hmono := roundedInt_mono
        (Int.mul_le_mul_of_nonneg_right hmagnitude (Int.natCast_nonneg (m * 2 ^ (e + 1074).toNat)))
      rw [← (rank_mul hu.1 huf hc).2, ← (rank_mul hv.1 hvf hc).2] at hmono
      omega

end NonlinearProgram.Machine

namespace NonlinearProgram

open Machine

instance : LawfulScalar Float where
  isNaN_zero := by
    rw [isNaN_eq, parts_zero]
    rfl
  isNaN_infinity := by
    rw [isNaN_eq, parts_infinity]
    rfl
  isNaN_of_atMost := by
    intro a b h
    rw [isNaN_eq, isNaN_eq]
    rw [atMost_eq] at h
    exact isNaN_of_isSome_compare (Option.isSome_of_any h)
  atMost_eq_not_less := by
    intro a b ha hb
    rw [isNaN_eq] at ha hb
    rw [atMost_eq, less_eq]
    exact le_eq_not_lt ha hb
  isNaN_of_less := by
    intro a b h
    rw [isNaN_eq, isNaN_eq]
    rw [less_eq] at h
    have hcompare : (parts a).compare (parts b) = some .lt := eq_of_beq h
    exact isNaN_of_isSome_compare (by rw [hcompare]; rfl)
  isNaN_sub_of_isFinite_right := by
    intro a b ha hb
    rw [isNaN_eq] at ha
    rw [isFinite_eq] at hb
    exact isNaN_parts_sub ha (isNaN_eq_false_of_isFinite hb) (.inr hb)
  isNaN_sub_of_isFinite_left := by
    intro a b ha hb
    rw [isFinite_eq] at ha
    rw [isNaN_eq] at hb
    exact isNaN_parts_sub (isNaN_eq_false_of_isFinite ha) hb (.inl ha)
  one_mul := by
    intro a
    apply parts_injective
    rw [parts_mul, parts_one, one_mul_parts (canonical_parts a).1]
    exact congrArg _ (pack_unpack a.toModel)
  mul_atMost_mul := by
    intro a b s hpos hfin hab
    rw [less_eq, parts_zero] at hpos
    rw [isFinite_eq] at hfin
    rw [atMost_eq] at hab ⊢
    obtain ⟨m, e, h, hs⟩ := parts_of_isScale hpos hfin
    obtain ⟨ha, hb⟩ := isNaN_of_isSome_compare (Option.isSome_of_any hab)
    have hc := (canonical_parts s).1
    rw [hs] at hc
    have hrank := (le_iff (canonical_parts a).1 (canonical_parts b).1 (canonical_parts a).2
      (canonical_parts b).2 ha hb).1 hab
    have hproduct := rank_mul_mono (canonical_parts a) (canonical_parts b) ha hb hc hrank
    rw [← hs, ← parts_mul, ← parts_mul] at hproduct
    refine (le_iff (canonical_parts _).1 (canonical_parts _).1 (canonical_parts _).2
      (canonical_parts _).2 ?_ ?_).2 hproduct
    · rw [parts_mul, hs]
      exact (isNaN_unpack_pack _).trans (isNaN_mul ha)
    · rw [parts_mul, hs]
      exact (isNaN_unpack_pack _).trans (isNaN_mul hb)

namespace Machine

open Scalar LawfulScalar

theorem atMost_iff_rank {a b : Float} (ha : isNaN a = false) (hb : isNaN b = false) :
    atMost a b = true ↔ rank (parts a) ≤ rank (parts b) := by
  rw [isNaN_eq] at ha hb
  rw [atMost_eq]
  exact le_iff (canonical_parts a).1 (canonical_parts b).1 (canonical_parts a).2
    (canonical_parts b).2 ha hb

end Machine

end NonlinearProgram
