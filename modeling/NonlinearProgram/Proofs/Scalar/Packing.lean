import NonlinearProgram.Proofs.Scalar.Binary64

/-!
# Packing the machine's numbers

A packed number is a sign, an exponent and the digits after the leading one. Packing and unpacking
undo each other, but for a number beyond the range, which becomes infinite. What is a number stays
one.
-/

namespace NonlinearProgram.Machine

open Float.Model Float.Model.UnpackedFloat

theorem toNat_one_append {m : BitVec 52} : (1#1 ++ m).toNat = 2 ^ 52 + m.toNat := by
  rw [BitVec.toNat_append, ← Nat.shiftLeft_add_eq_or_of_lt m.isLt]
  rfl

theorem canonical_unpack (b : BitVec Format.binary64.numBits) :
    Canonical (UnpackedFloat.unpack Format.binary64 b) ∧
      InRange (UnpackedFloat.unpack Format.binary64 b) := by
  have hexponent : (unpackExponent b).toNat < 2 ^ 11 := (unpackExponent b).isLt
  have hmantissa : (unpackMantissa b).toNat < 2 ^ 52 := (unpackMantissa b).isLt
  have hbias : ((Format.exponentBias Format.binary64 : Nat) : Int) = 1023 := rfl
  unfold UnpackedFloat.unpack
  by_cases hall : unpackExponent b = -1#_
  · by_cases hzero : unpackMantissa b = 0#_
    · simp only [if_pos hall, if_pos hzero]
      exact ⟨trivial, trivial⟩
    · simp only [if_pos hall, if_neg hzero]
      exact ⟨trivial, trivial⟩
  · by_cases hnone : unpackExponent b = 0#_
    · by_cases hzero : unpackMantissa b = 0#_
      · simp only [if_neg hall, if_pos hnone, dif_pos hzero]
        exact ⟨trivial, trivial⟩
      · simp only [if_neg hall, if_pos hnone, dif_neg hzero]
        have hexponent0 : (unpackExponent b).toNat = 0 := by
          rw [hnone]
          rfl
        refine ⟨⟨?_, ?_, .inr ?_⟩, ?_⟩
        · omega
        · rw [hbias]
          omega
        · rw [hbias]
          omega
        · change _ ≤ _
          rw [hbias]
          omega
    · simp only [if_neg hall, if_neg hnone]
      have hexponent0 : (unpackExponent b).toNat ≠ 0 := by
        intro h
        exact hnone (BitVec.eq_of_toNat_eq h)
      have hexponent1 : (unpackExponent b).toNat ≠ 2047 := by
        intro h
        exact hall (BitVec.eq_of_toNat_eq h)
      have hm : (1#1 ++ unpackMantissa b).toNat = 2 ^ 52 + (unpackMantissa b).toNat :=
        toNat_one_append
      refine ⟨⟨?_, ?_, .inl ?_⟩, ?_⟩
      · rw [hm]
        omega
      · rw [hbias]
        omega
      · rw [hm]
        omega
      · change _ ≤ _
        rw [hbias]
        omega

theorem unpack_packedInfinity (s : Sign) :
    UnpackedFloat.unpack Format.binary64 (packedInfinity Format.binary64 s) = .infinity s := by
  unfold UnpackedFloat.unpack packedInfinity
  simp only [unpackExponent_packComponents, unpackMantissa_packComponents,
    unpackSign_packComponents, Sign.ofBitVec_toBitVec, if_true]
  rfl

theorem finite_congr {s : Sign} {m m' : Nat} {e e' : Int} {h : 0 < m} {h' : 0 < m'}
    (hm : m = m') (he : e = e') : UnpackedFloat.finite s m e h = .finite s m' e' h' := by
  subst hm he
  rfl

theorem unpack_normal {s : Sign} {m : Nat} {e : Int} (h : 0 < m) (hm : m < 2 ^ 53)
    (hm' : 2 ^ 52 ≤ m) (he : -1074 ≤ e) (hrange : e ≤ 971) :
    UnpackedFloat.unpack Format.binary64 (packComponents Format.binary64 s
      (BitVec.ofNat 11 (e + 1075).toNat) (BitVec.ofNat 52 m)) = .finite s m e h := by
  have hexponent : (BitVec.ofNat 11 (e + 1075).toNat).toNat = (e + 1075).toNat := by
    rw [BitVec.toNat_ofNat, Nat.mod_eq_of_lt (by omega)]
  have hall : BitVec.ofNat 11 (e + 1075).toNat ≠ -1#_ := by
    intro h
    have h := congrArg BitVec.toNat h
    rw [hexponent] at h
    change (e + 1075).toNat = 2047 at h
    omega
  have hnone : BitVec.ofNat 11 (e + 1075).toNat ≠ 0#_ := by
    intro h
    have h := congrArg BitVec.toNat h
    rw [hexponent] at h
    change (e + 1075).toNat = 0 at h
    omega
  unfold UnpackedFloat.unpack
  simp only [unpackExponent_packComponents, unpackMantissa_packComponents,
    unpackSign_packComponents, Sign.ofBitVec_toBitVec, if_neg hall, if_neg hnone]
  apply finite_congr
  · rw [toNat_one_append, BitVec.toNat_ofNat]
    omega
  · have hbias : ((Format.exponentBias Format.binary64 : Nat) : Int) = 1023 := rfl
    rw [hbias, hexponent]
    omega

theorem unpack_subnormal {s : Sign} {m : Nat} (h : 0 < m) (hm : m < 2 ^ 52) :
    UnpackedFloat.unpack Format.binary64 (packComponents Format.binary64 s 0#11
      (BitVec.ofNat 52 m)) = .finite s m (-1074) h := by
  have hmantissa : (BitVec.ofNat 52 m).toNat = m := by
    rw [BitVec.toNat_ofNat, Nat.mod_eq_of_lt hm]
  have hall : 0#11 ≠ -1#_ := by decide
  have hzero : BitVec.ofNat 52 m ≠ 0#_ := by
    intro h'
    have h' := congrArg BitVec.toNat h'
    rw [hmantissa] at h'
    exact h.ne' h'
  unfold UnpackedFloat.unpack
  simp only [unpackExponent_packComponents, unpackMantissa_packComponents,
    unpackSign_packComponents, Sign.ofBitVec_toBitVec, if_neg hall, if_true, dif_neg hzero]
  apply finite_congr
  · exact hmantissa
  · rfl

/-- What is finite and packed is unpacked as it was, or as infinity beyond the range. -/
theorem unpack_pack_finite {s : Sign} {m : Nat} {e : Int} {h : 0 < m}
    (hc : Canonical (.finite s m e h)) :
    UnpackedFloat.unpack Format.binary64 (UnpackedFloat.pack Format.binary64 (.finite s m e h)) =
      if e ≤ 971 then .finite s m e h else .infinity s := by
  obtain ⟨hm, he, hnormal⟩ := hc
  have hbiased : (e + (Format.exponentBias Format.binary64 : Nat) + 52).toNat =
      (e + 1075).toNat := by
    have hbias : ((Format.exponentBias Format.binary64 : Nat) : Int) = 1023 := rfl
    rw [hbias]
    omega
  unfold UnpackedFloat.pack
  simp only [Nat.cast_ofNat, hbiased]
  by_cases hrange : e ≤ 971
  · rw [if_pos hrange, if_neg (by omega)]
    by_cases hdigits : 2 ^ 52 ≤ m
    · have hlog : m.log2 = 52 := (Nat.log2_eq_iff h.ne').2 ⟨hdigits, hm⟩
      rw [if_pos (by rw [hlog]; rfl)]
      exact unpack_normal h hm hdigits he hrange
    · have hlog : m.log2 < 52 := (Nat.log2_lt h.ne').2 (by omega)
      have hleast : e = -1074 := by omega
      subst hleast
      rw [if_neg]
      · exact unpack_subnormal h (by omega)
      · change ¬ m.log2 + 1 = 53
        omega
  · rw [if_neg hrange, if_pos (by omega), unpack_packedInfinity]

/-- An exponent that is not the largest is not one of what is not a number. -/
theorem isNaN_unpack_packComponents {s : Sign} {e : BitVec 11} {m : BitVec 52} (h : e ≠ -1#_) :
    (UnpackedFloat.unpack Format.binary64 (packComponents Format.binary64 s e m)).isNaN =
      false := by
  unfold UnpackedFloat.unpack
  simp only [unpackExponent_packComponents, unpackMantissa_packComponents,
    unpackSign_packComponents, if_neg h]
  by_cases hnone : e = 0#_
  · by_cases hzero : m = 0#_
    · simp only [if_pos hnone, dif_pos hzero]
      rfl
    · simp only [if_pos hnone, dif_neg hzero]
      rfl
  · simp only [if_neg hnone]
    rfl

theorem isNaN_unpack_pack (u : UnpackedFloat) :
    (UnpackedFloat.unpack Format.binary64 (UnpackedFloat.pack Format.binary64 u)).isNaN =
      u.isNaN := by
  cases u with
  | notANumber =>
      change (UnpackedFloat.unpack Format.binary64 (packedNaN Format.binary64)).isNaN = true
      rw [unpack_packedNaN]
      rfl
  | infinity s =>
      change (UnpackedFloat.unpack Format.binary64 (packedInfinity Format.binary64 s)).isNaN = false
      rw [unpack_packedInfinity]
      rfl
  | zero s =>
      change (UnpackedFloat.unpack Format.binary64 (packedZero Format.binary64 s)).isNaN = false
      rw [unpack_packedZero]
      rfl
  | finite s m e h =>
      change _ = false
      unfold UnpackedFloat.pack
      simp only
      split
      · rw [unpack_packedInfinity]
        rfl
      · split
        · apply isNaN_unpack_packComponents
          intro h'
          have h' := congrArg BitVec.toNat h'
          change _ = 2047 at h'
          rw [BitVec.toNat_ofNat] at h'
          omega
        · exact isNaN_unpack_packComponents (by decide)

theorem pack_unpack (a : Float.Model) : Float.Model.pack a.unpack = a := by
  obtain ⟨bits, hvalid⟩ := a
  have hbits := pack_unpack_of_valid hvalid
  unfold Float.Model.pack Float.Model.unpack
  simp only [hbits]

/-- What is packed has the rank it had, or that of infinity beyond the range. -/
theorem rank_unpack_pack {u : UnpackedFloat} (hu : Canonical u) :
    rank (Float.Model.pack u).unpack = max (-(2047 * 2 ^ 52)) (min (rank u) (2047 * 2 ^ 52)) := by
  cases u with
  | notANumber => exact congrArg rank unpack_packedNaN
  | infinity s =>
      refine (congrArg rank (unpack_packedInfinity s)).trans ?_
      cases s <;> rfl
  | zero s => exact congrArg rank unpack_packedZero
  | finite s m e h =>
      refine (congrArg rank (unpack_pack_finite hu)).trans ?_
      obtain ⟨hm, he, hnormal⟩ := hu
      by_cases hrange : e ≤ 971
      · rw [if_pos hrange]
        cases s <;> simp only [rank, Sign.apply] <;> omega
      · rw [if_neg hrange]
        cases s <;> simp only [rank, Sign.apply] <;> omega

end NonlinearProgram.Machine
