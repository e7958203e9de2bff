import Mathlib
import NonlinearProgram.Proofs.Scalar.Rounding

/-!
# The machine's numbers in order

A machine's number is unpacked into a sign, a mantissa of at most 53 binary digits and an exponent.
Its rank counts the numbers from zero up to it. Comparisons are those of ranks, and the product of
two numbers has the rank that their magnitudes round to.
-/

namespace NonlinearProgram.Machine

open Float.Model Float.Model.UnpackedFloat

def Canonical : UnpackedFloat → Prop
  | .finite _ m e _ => m < 2 ^ 53 ∧ -1074 ≤ e ∧ (2 ^ 52 ≤ m ∨ e = -1074)
  | _ => True

/-- How many numbers there are from zero up to one, with its sign; infinity comes after the last. -/
def rank : UnpackedFloat → Int
  | .notANumber => 0
  | .infinity s => s.apply (2047 * 2 ^ 52)
  | .zero _ => 0
  | .finite s m e _ => s.apply (m + (e + 1074) * 2 ^ 52)

theorem log2_mul_two_pow {m : Nat} (hm : m ≠ 0) (k : Nat) : (m * 2 ^ k).log2 = m.log2 + k := by
  have hpos := Nat.two_pow_pos k
  rw [Nat.log2_eq_iff (Nat.mul_ne_zero hm hpos.ne'), Nat.pow_add,
    show m.log2 + k + 1 = m.log2 + 1 + k by omega, Nat.pow_add 2 (m.log2 + 1) k]
  exact ⟨Nat.mul_le_mul_right _ (Nat.log2_self_le hm),
    Nat.mul_lt_mul_of_pos_right Nat.lt_log2_self hpos⟩

theorem targetExponent_eq (m : Nat) (e : Int) :
    Format.binary64.targetExponent (totalExponent m e) = max (m.log2 + 1 + e - 53) (-1074) := rfl

theorem cut_eq {m : Nat} {e : Int} (hm : m ≠ 0) (he : -2148 ≤ e) :
    (cut (m * 2 ^ (e + 2148).toNat) : Int) =
      Format.binary64.targetExponent (totalExponent m e) + 2148 := by
  rw [targetExponent_eq, cut, log2_mul_two_pow hm]
  omega

theorem shift_of_lt {r : Nat} {t : Int} (ht : -1074 ≤ t) (hr : r < 2 ^ 53) :
    shiftToTargetExponent Format.binary64 r t .exact = (⟨r, false, false⟩, t) := by
  have hlog : r.log2 ≤ 52 := by
    rcases Nat.eq_zero_or_pos r with rfl | hpos
    · exact Nat.zero_le _
    · exact Nat.lt_succ_iff.1 ((Nat.log2_lt hpos.ne').2 hr)
  have hshift : (Format.binary64.targetExponent (totalExponent r t) - t).toNat = 0 := by
    rw [targetExponent_eq]
    omega
  rw [shiftToTargetExponent, shiftToExponent, hshift]
  simp only [Nat.cast_zero, add_zero]
  rfl

theorem shift_of_eq {r : Nat} {t : Int} (ht : -1074 ≤ t) (hr : r = 2 ^ 53) :
    shiftToTargetExponent Format.binary64 r t .exact = (⟨2 ^ 52, false, false⟩, t + 1) := by
  subst hr
  have hshift : (Format.binary64.targetExponent (totalExponent (2 ^ 53) t) - t).toNat = 1 := by
    rw [targetExponent_eq, Nat.log2_two_pow]
    omega
  rw [shiftToTargetExponent, shiftToExponent, hshift]
  rfl

/-- What rounding comes to: the rounded mantissa and its exponent, carried over where the mantissa
has a digit too many. -/
theorem roundWithAccuracy_eq {s : Sign} {m : Nat} {e t : Int} {r : Nat}
    (ht : t = Format.binary64.targetExponent (totalExponent m e)) (he : e ≤ t)
    (hr : r = nearest m (t - e).toNat) :
    (r = 0 → roundWithAccuracy Format.binary64 s m e .exact = .zero s) ∧
    (∀ h : 0 < r, r < 2 ^ 53 →
      roundWithAccuracy Format.binary64 s m e .exact = .finite s r t h) ∧
    (r = 2 ^ 53 → roundWithAccuracy Format.binary64 s m e .exact =
      .finite s (2 ^ 52) (t + 1) (Nat.two_pow_pos 52)) := by
  have htarget : -1074 ≤ t := by
    rw [ht, targetExponent_eq]
    exact le_max_right _ _
  have hfirst : shiftToTargetExponent Format.binary64 m e .exact =
      (ExtendedMantissa.ofMantissaAndAccuracy m .exact >>> (t - e).toNat, t) := by
    rw [shiftToTargetExponent, shiftToExponent, ← ht]
    simp only [Prod.mk.injEq, true_and]
    omega
  have hrounded : roundWithAccuracy Format.binary64 s m e .exact =
      if h : (shiftToTargetExponent Format.binary64 r t .exact).1.mantissa = 0 then .zero s
      else .finite s (shiftToTargetExponent Format.binary64 r t .exact).1.mantissa
        (shiftToTargetExponent Format.binary64 r t .exact).2 (Nat.pos_of_ne_zero h) := by
    rw [roundWithAccuracy, hfirst]
    simp only [roundedMantissa_shiftRight, ← hr]
  refine ⟨?_, ?_, ?_⟩
  · intro h0
    rw [hrounded, dif_pos]
    rw [shift_of_lt htarget (by omega), h0]
  · intro hpos hlt
    have hsecond := shift_of_lt htarget hlt
    rw [hrounded, dif_neg]
    · simp only [hsecond]
    · rw [hsecond]
      exact hpos.ne'
  · intro hcarry
    have hsecond := shift_of_eq htarget hcarry
    rw [hrounded, dif_neg]
    · simp only [hsecond]
    · rw [hsecond]
      exact (Nat.two_pow_pos 52).ne'

/-- What a mantissa and an exponent are rounded to is written with all its digits, and its rank is
that of the magnitude, rounded. -/
theorem rank_roundWithAccuracy (s : Sign) {m : Nat} {e : Int} (hm : m ≠ 0) (hbase : -2148 ≤ e)
    (he : e ≤ Format.binary64.targetExponent (totalExponent m e)) :
    Canonical (roundWithAccuracy Format.binary64 s m e .exact) ∧
      rank (roundWithAccuracy Format.binary64 s m e .exact) =
        s.apply (rounded (m * 2 ^ (e + 2148).toNat)) := by
  obtain ⟨t, ht⟩ : ∃ t, t = Format.binary64.targetExponent (totalExponent m e) := ⟨_, rfl⟩
  have hcut := cut_eq hm hbase
  have htarget : -1074 ≤ t := by
    rw [ht, targetExponent_eq]
    exact le_max_right _ _
  have hr : nearest (m * 2 ^ (e + 2148).toNat) (cut (m * 2 ^ (e + 2148).toNat)) =
      nearest m (t - e).toNat := by
    rw [← nearest_scale m (t - e).toNat (e + 2148).toNat]
    congr 1
    omega
  have hle := nearest_cut_le (m * 2 ^ (e + 2148).toNat)
  have hge := @le_nearest_cut (m * 2 ^ (e + 2148).toNat)
  have hrounded : rounded (m * 2 ^ (e + 2148).toNat) =
      nearest m (t - e).toNat + (t + 1074).toNat * 2 ^ 52 := by
    have hdigits : cut (m * 2 ^ (e + 2148).toNat) - 1074 = (t + 1074).toNat := by
      omega
    unfold rounded
    rw [hr, hdigits]
  rw [hr] at hle hge
  obtain ⟨hzero, hfinite, hcarry⟩ := roundWithAccuracy_eq (s := s) ht (by omega) rfl
  rw [hrounded]
  generalize nearest m (t - e).toNat = r at *
  rcases Nat.eq_zero_or_pos r with h0 | hpos
  · rw [hzero h0]
    refine ⟨trivial, ?_⟩
    have : t = -1074 := by omega
    subst this
    rw [h0]
    cases s <;> rfl
  · rcases Nat.eq_or_lt_of_le hle with heq | hlt
    · rw [hcarry heq]
      refine ⟨⟨by omega, by omega, .inl (Nat.le_refl _)⟩, congrArg s.apply ?_⟩
      push_cast
      omega
    · rw [hfinite hpos hlt]
      refine ⟨⟨hlt, htarget, by omega⟩, congrArg s.apply ?_⟩
      push_cast
      omega

theorem isLE_compare_then (e e' : Int) (m m' : Nat) :
    ((compare e e').then (compare m m')).isLE = true ↔ e < e' ∨ e = e' ∧ m ≤ m' := by
  rcases lt_trichotomy e e' with h | rfl | h
  · rw [compare_lt_iff_lt.2 h]
    simp [h]
  · rw [compare_eq_iff_eq.2 rfl]
    simp [Nat.isLE_compare]
  · rw [compare_gt_iff_gt.2 h]
    simp [h.not_gt, h.ne']

theorem swap_compare_then (e e' : Int) (m m' : Nat) :
    ((compare e e').then (compare m m')).swap = (compare e' e).then (compare m' m) := by
  rw [Ordering.swap_then, Int.compare_swap, Nat.compare_swap]

theorem compare_swap (u v : UnpackedFloat) : v.compare u = (u.compare v).map Ordering.swap := by
  cases u with
  | notANumber => cases v <;> rfl
  | infinity s =>
      cases v with
      | notANumber => cases s <;> rfl
      | infinity s' => cases s <;> cases s' <;> rfl
      | zero s' => cases s <;> rfl
      | finite s' m' e' h' => cases s <;> cases s' <;> rfl
  | zero s =>
      cases v with
      | notANumber => rfl
      | infinity s' => cases s' <;> rfl
      | zero s' => rfl
      | finite s' m' e' h' => cases s' <;> rfl
  | finite s m e h =>
      cases v with
      | notANumber => cases s <;> rfl
      | infinity s' => cases s <;> cases s' <;> rfl
      | zero s' => cases s <;> rfl
      | finite s' m' e' h' =>
          cases s <;> cases s' <;>
            first
              | rfl
              | simp only [UnpackedFloat.compare, Option.map_some, swap_compare_then]

theorem compare_self {u : UnpackedFloat} (h : u.isNaN = false) : u.compare u = some .eq := by
  cases u with
  | notANumber => cases h
  | infinity s => cases s <;> rfl
  | zero s => rfl
  | finite s m e h => cases s <;> simp [UnpackedFloat.compare]

theorem isSome_compare (u v : UnpackedFloat) :
    (u.compare v).isSome = (!u.isNaN && !v.isNaN) := by
  cases u with
  | notANumber => cases v <;> rfl
  | infinity s =>
      cases v with
      | notANumber | infinity s' | zero s' | finite s' m' e' h' => cases s <;> rfl
  | zero s =>
      cases v with
      | notANumber | zero s' => rfl
      | infinity s' | finite s' m' e' h' => cases s' <;> rfl
  | finite s m e h =>
      cases v with
      | notANumber | zero s' => cases s <;> rfl
      | infinity s' | finite s' m' e' h' => cases s <;> cases s' <;> rfl

theorem isNaN_of_isSome_compare {u v : UnpackedFloat} (h : (u.compare v).isSome = true) :
    u.isNaN = false ∧ v.isNaN = false := by
  rw [isSome_compare, Bool.and_eq_true, Bool.not_eq_true', Bool.not_eq_true'] at h
  exact h

theorem le_eq_not_lt {u v : UnpackedFloat} (hu : u.isNaN = false) (hv : v.isNaN = false) :
    u.le v = !v.lt u := by
  have hsome := isSome_compare u v
  rw [hu, hv] at hsome
  obtain ⟨o, ho⟩ := Option.isSome_iff_exists.1 hsome
  unfold UnpackedFloat.le UnpackedFloat.lt
  rw [compare_swap u v, ho]
  cases o <;> rfl

def InRange : UnpackedFloat → Prop
  | .finite _ _ e _ => e ≤ 971
  | _ => True

theorem rank_finite_lt {s : Sign} {m : Nat} {e : Int} {h : 0 < m}
    (hc : Canonical (.finite s m e h)) (hr : InRange (.finite s m e h)) :
    0 < (m : Int) + (e + 1074) * 2 ^ 52 ∧ (m : Int) + (e + 1074) * 2 ^ 52 < 2047 * 2 ^ 52 := by
  obtain ⟨hm, he, -⟩ := hc
  change e ≤ 971 at hr
  omega

theorem rank_lt_of_isFinite {u : UnpackedFloat} (hc : Canonical u) (hr : InRange u)
    (hf : u.isFinite = true) : -(2047 * 2 ^ 52) < rank u ∧ rank u < 2047 * 2 ^ 52 := by
  cases u with
  | notANumber => cases hf
  | infinity s => cases hf
  | zero s =>
      change _ < (0 : Int) ∧ (0 : Int) < _
      omega
  | finite s m e h =>
      obtain ⟨hpos, hlt⟩ := rank_finite_lt hc hr
      cases s with
      | positive =>
          change _ < (m : Int) + (e + 1074) * 2 ^ 52 ∧ (m : Int) + (e + 1074) * 2 ^ 52 < _
          omega
      | negative =>
          change _ < -((m : Int) + (e + 1074) * 2 ^ 52) ∧ -((m : Int) + (e + 1074) * 2 ^ 52) < _
          omega

theorem isLE_compare_iff {s : Sign} {m m' : Nat} {e e' : Int} {h : 0 < m} {h' : 0 < m'}
    (hc : Canonical (.finite s m e h)) (hc' : Canonical (.finite s m' e' h')) :
    ((compare e e').then (compare m m')).isLE = true ↔
      (m : Int) + (e + 1074) * 2 ^ 52 ≤ m' + (e' + 1074) * 2 ^ 52 := by
  obtain ⟨hm, he, hnormal⟩ := hc
  obtain ⟨hm', he', hnormal'⟩ := hc'
  rw [isLE_compare_then]
  omega

theorem le_iff {u v : UnpackedFloat} (hu : Canonical u) (hv : Canonical v) (hur : InRange u)
    (hvr : InRange v) (hun : u.isNaN = false) (hvn : v.isNaN = false) :
    u.le v = true ↔ rank u ≤ rank v := by
  unfold UnpackedFloat.le
  cases u with
  | notANumber => cases hun
  | infinity s =>
      cases v with
      | notANumber => cases hvn
      | infinity s' => cases s <;> cases s' <;> decide
      | zero s' => cases s <;> simp [UnpackedFloat.compare, rank, Sign.apply]
      | finite s' m e h =>
          have hbound := rank_finite_lt hv hvr
          cases s <;> cases s' <;> simp [UnpackedFloat.compare, rank, Sign.apply] <;> omega
  | zero s =>
      cases v with
      | notANumber => cases hvn
      | infinity s' => cases s' <;> simp [UnpackedFloat.compare, rank, Sign.apply]
      | zero s' => simp [UnpackedFloat.compare, rank]
      | finite s' m e h =>
          have hbound := rank_finite_lt hv hvr
          cases s' <;> simp [UnpackedFloat.compare, rank, Sign.apply] <;> omega
  | finite s m e h =>
      have hbound := rank_finite_lt hu hur
      cases v with
      | notANumber => cases hvn
      | infinity s' =>
          cases s <;> cases s' <;> simp [UnpackedFloat.compare, rank, Sign.apply] <;> omega
      | zero s' =>
          cases s <;> simp [UnpackedFloat.compare, rank, Sign.apply] <;> omega
      | finite s' m' e' h' =>
          have hbound' := rank_finite_lt hv hvr
          cases s <;> cases s'
          · rw [UnpackedFloat.compare, swap_compare_then, Option.any_some, isLE_compare_iff hv hu]
            simp only [rank, Sign.apply]
            omega
          · simp [UnpackedFloat.compare, rank, Sign.apply]
            omega
          · simp [UnpackedFloat.compare, rank, Sign.apply]
            omega
          · rw [UnpackedFloat.compare, Option.any_some, isLE_compare_iff hu hv]
            rfl

end NonlinearProgram.Machine
