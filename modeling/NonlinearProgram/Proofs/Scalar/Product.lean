import NonlinearProgram.Proofs.Scalar.Binary64

/-!
# Products of the machine's numbers

The product of a number and a positive one has the rank that the product of their magnitudes rounds
to, so multiplying keeps the order. One is neutral.
-/

namespace NonlinearProgram.Machine

open Float.Model Float.Model.UnpackedFloat

def magnitude : UnpackedFloat → Int
  | .finite s m e _ => s.apply (m * 2 ^ (e + 1074).toNat)
  | _ => 0

def roundedInt (z : Int) : Int := if 0 ≤ z then rounded z.toNat else -rounded (-z).toNat

theorem roundedInt_mono {z w : Int} (h : z ≤ w) : roundedInt z ≤ roundedInt w := by
  unfold roundedInt
  by_cases hz : 0 ≤ z
  · have hmono := rounded_mono (Int.toNat_le_toNat h)
    rw [if_pos hz, if_pos (hz.trans h)]
    exact_mod_cast hmono
  · by_cases hw : 0 ≤ w
    · rw [if_neg hz, if_pos hw]
      omega
    · have hmono := rounded_mono (Int.toNat_le_toNat (Int.neg_le_neg h))
      rw [if_neg hz, if_neg hw]
      omega

theorem rounded_zero : rounded 0 = 0 := by
  have hcut : cut 0 = 1074 := by
    rw [cut, Nat.log2_zero]
    rfl
  have hnearest := nearest_mul_two_pow 0 (cut 0)
  rw [Nat.zero_mul] at hnearest
  unfold rounded
  rw [hnearest, hcut, Nat.sub_self, Nat.zero_mul]

theorem roundedInt_apply (s : Sign) (n : Nat) : roundedInt (s.apply n) = s.apply (rounded n) := by
  have hzero := rounded_zero
  cases s with
  | positive => rfl
  | negative =>
      change (if 0 ≤ -(n : Int) then (rounded (-(n : Int)).toNat : Int)
        else -rounded (- -(n : Int)).toNat) = -rounded n
      rcases Nat.eq_zero_or_pos n with rfl | hpos
      · rw [if_pos (by omega), hzero]
        simp [hzero]
      · rw [if_neg (by omega), Int.neg_neg, Int.toNat_natCast]

theorem eq_of_rank_finite {s s' : Sign} {m m' : Nat} {e e' : Int} {h : 0 < m} {h' : 0 < m'}
    (hc : Canonical (.finite s m e h)) (hc' : Canonical (.finite s' m' e' h'))
    (hrank : (m : Int) + (e + 1074) * 2 ^ 52 = m' + (e' + 1074) * 2 ^ 52) : m = m' ∧ e = e' := by
  obtain ⟨hm, he, hnormal⟩ := hc
  obtain ⟨hm', he', hnormal'⟩ := hc'
  have hexponent : e = e' := by omega
  exact ⟨by omega, hexponent⟩

theorem magnitude_lt {s s' : Sign} {m m' : Nat} {e e' : Int} {h : 0 < m} {h' : 0 < m'}
    (hc : Canonical (.finite s m e h)) (hc' : Canonical (.finite s' m' e' h'))
    (hrank : (m : Int) + (e + 1074) * 2 ^ 52 < m' + (e' + 1074) * 2 ^ 52) :
    m * 2 ^ (e + 1074).toNat < m' * 2 ^ (e' + 1074).toNat := by
  obtain ⟨hm, he, hnormal⟩ := hc
  obtain ⟨hm', he', hnormal'⟩ := hc'
  rcases Int.lt_trichotomy e e' with hlt | rfl | hgt
  · have hdigits : 2 ^ 52 ≤ m' := by omega
    have hpow : 2 ^ 53 * 2 ^ (e + 1074).toNat ≤ 2 ^ 52 * 2 ^ (e' + 1074).toNat := by
      rw [← Nat.pow_add, ← Nat.pow_add]
      exact Nat.pow_le_pow_right Nat.two_pos (by omega)
    calc m * 2 ^ (e + 1074).toNat < 2 ^ 53 * 2 ^ (e + 1074).toNat :=
          Nat.mul_lt_mul_of_pos_right hm (Nat.two_pow_pos _)
      _ ≤ 2 ^ 52 * 2 ^ (e' + 1074).toNat := hpow
      _ ≤ m' * 2 ^ (e' + 1074).toNat := Nat.mul_le_mul_right _ hdigits
  · exact Nat.mul_lt_mul_of_pos_right (by omega) (Nat.two_pow_pos _)
  · omega

theorem magnitude_le {s s' : Sign} {m m' : Nat} {e e' : Int} {h : 0 < m} {h' : 0 < m'}
    (hc : Canonical (.finite s m e h)) (hc' : Canonical (.finite s' m' e' h'))
    (hrank : (m : Int) + (e + 1074) * 2 ^ 52 ≤ m' + (e' + 1074) * 2 ^ 52) :
    m * 2 ^ (e + 1074).toNat ≤ m' * 2 ^ (e' + 1074).toNat := by
  rcases hrank.eq_or_lt with heq | hlt
  · obtain ⟨rfl, rfl⟩ := eq_of_rank_finite hc hc' heq
    exact Nat.le_refl _
  · exact (magnitude_lt hc hc' hlt).le

theorem magnitude_mono {u v : UnpackedFloat} (hu : Canonical u) (hv : Canonical v)
    (huf : u.isFinite = true) (hvf : v.isFinite = true) (h : rank u ≤ rank v) :
    magnitude u ≤ magnitude v := by
  cases u with
  | notANumber => cases huf
  | infinity s => cases huf
  | zero s =>
      cases v with
      | notANumber => cases hvf
      | infinity s' => cases hvf
      | zero s' => exact le_refl _
      | finite s' m' e' h' =>
          have he' := hv.2.1
          cases s' with
          | positive => exact Int.natCast_nonneg _
          | negative =>
              simp only [rank, Sign.apply] at h
              omega
  | finite s m e hm =>
      have he := hu.2.1
      cases v with
      | notANumber => cases hvf
      | infinity s' => cases hvf
      | zero s' =>
          cases s with
          | negative => exact Int.neg_nonpos_of_nonneg (Int.natCast_nonneg _)
          | positive =>
              simp only [rank, Sign.apply] at h
              omega
      | finite s' m' e' hm' =>
          have he' := hv.2.1
          cases s with
          | negative =>
              cases s' with
              | negative =>
                  have hrank := Int.neg_le_neg_iff.1 h
                  exact Int.neg_le_neg (Int.ofNat_le.2 (magnitude_le hv hu hrank))
              | positive =>
                  exact (Int.neg_nonpos_of_nonneg (Int.natCast_nonneg _)).trans
                    (Int.natCast_nonneg _)
          | positive =>
              cases s' with
              | negative =>
                  simp only [rank, Sign.apply] at h
                  omega
              | positive =>
                  exact Int.ofNat_le.2 (magnitude_le hu hv h)

/-- The exponent of a product is at most the one that the product is rounded to. -/
theorem exponent_le_target {s s' : Sign} {m m' : Nat} {e e' : Int} {h : 0 < m} {h' : 0 < m'}
    (hc : Canonical (.finite s m e h)) (hc' : Canonical (.finite s' m' e' h')) :
    e + e' ≤ Format.binary64.targetExponent (totalExponent (m * m') (e + e')) := by
  obtain ⟨-, -, hnormal⟩ := hc
  obtain ⟨-, -, hnormal'⟩ := hc'
  rw [targetExponent_eq]
  by_cases hdigits : 2 ^ 52 ≤ m * m'
  · have hlog : 52 ≤ (m * m').log2 := (Nat.le_log2 (Nat.mul_ne_zero h.ne' h'.ne')).2 hdigits
    omega
  · have hm : ¬ 2 ^ 52 ≤ m := fun hm => hdigits (hm.trans (Nat.le_mul_of_pos_right m h'))
    have hm' : ¬ 2 ^ 52 ≤ m' := fun hm' => hdigits (hm'.trans (Nat.le_mul_of_pos_left m' h))
    omega

/-- The product with a positive number has the rank that the product of the magnitudes rounds to. -/
theorem rank_mul {u : UnpackedFloat} {m' : Nat} {e' : Int} {h' : 0 < m'} (hu : Canonical u)
    (huf : u.isFinite = true) (hc' : Canonical (.finite .positive m' e' h')) :
    Canonical (UnpackedFloat.mul .binary64 u (.finite .positive m' e' h')) ∧
      rank (UnpackedFloat.mul .binary64 u (.finite .positive m' e' h')) =
        roundedInt (magnitude u * (m' * 2 ^ (e' + 1074).toNat : Nat)) := by
  cases u with
  | notANumber => cases huf
  | infinity s => cases huf
  | zero s =>
      refine ⟨trivial, ?_⟩
      change 0 = roundedInt (0 * _)
      rw [Int.zero_mul, show (0 : Int) = Sign.positive.apply (0 : Nat) from rfl, roundedInt_apply,
        rounded_zero]
  | finite s m e h =>
      have he := hu.2.1
      have he' := hc'.2.1
      have hproduct := rank_roundWithAccuracy (s * .positive) (Nat.mul_ne_zero h.ne' h'.ne')
        (by omega) (exponent_le_target hu hc')
      have hsign : s * .positive = s := by
        cases s <;> rfl
      have hmagnitude : m * m' * 2 ^ (e + e' + 2148).toNat =
          m * 2 ^ (e + 1074).toNat * (m' * 2 ^ (e' + 1074).toNat) := by
        rw [show (e + e' + 2148).toNat = (e + 1074).toNat + (e' + 1074).toNat by omega,
          Nat.pow_add, Nat.mul_mul_mul_comm]
      have hsigned : magnitude (.finite s m e h) * (m' * 2 ^ (e' + 1074).toNat : Nat) =
          s.apply (m * 2 ^ (e + 1074).toNat * (m' * 2 ^ (e' + 1074).toNat) : Nat) := by
        cases s with
        | positive => exact (Int.natCast_mul _ _).symm
        | negative =>
            change -_ * _ = -_
            rw [Int.neg_mul]
            push_cast
            rfl
      have hmul : UnpackedFloat.mul .binary64 (.finite s m e h) (.finite .positive m' e' h') =
          roundWithAccuracy .binary64 s (m * m') (e + e') .exact := by
        change roundWithAccuracy .binary64 (s * .positive) _ _ _ = _
        rw [hsign]
      rw [hsign, hmagnitude] at hproduct
      rw [hsigned, roundedInt_apply, hmul]
      exact hproduct

theorem one_mul_parts {u : UnpackedFloat} (hu : Canonical u) :
    UnpackedFloat.mul .binary64 (.finite .positive (2 ^ 52) (-52) (Nat.two_pow_pos 52)) u = u := by
  have hsign : ∀ s : Sign, Sign.positive * s = s := by
    intro s
    cases s <;> rfl
  cases u with
  | notANumber => rfl
  | infinity s => exact congrArg _ (hsign s)
  | zero s => exact congrArg _ (hsign s)
  | finite s m e h =>
      obtain ⟨hm, he, hnormal⟩ := hu
      have htarget : e = Format.binary64.targetExponent (totalExponent (2 ^ 52 * m) (-52 + e)) := by
        rw [targetExponent_eq, Nat.mul_comm, log2_mul_two_pow h.ne']
        have hlog : m.log2 < 53 := (Nat.log2_lt h.ne').2 hm
        rcases hnormal with hdigits | hleast
        · have hlog' : 52 ≤ m.log2 := (Nat.le_log2 h.ne').2 hdigits
          omega
        · omega
      have hmantissa : m = nearest (2 ^ 52 * m) (e - (-52 + e)).toNat := by
        rw [show (e - (-52 + e)).toNat = 52 by omega, Nat.mul_comm, nearest_mul_two_pow]
      change roundWithAccuracy .binary64 (.positive * s) (2 ^ 52 * m) (-52 + e) .exact = _
      rw [hsign]
      exact (roundWithAccuracy_eq htarget (by omega) hmantissa).2.1 h hm

end NonlinearProgram.Machine
