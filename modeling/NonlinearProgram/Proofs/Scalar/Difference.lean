import NonlinearProgram.Proofs.Scalar.Machine
import NonlinearProgram.Proofs.Scalar.Ordered

/-!
# Differences of the machine's numbers

The difference of two numbers is a whole multiple of the least positive number there is, so rounding
does not take it to zero. Together with the order of ranks, in which only the two zeros are not told
apart, this makes the machine's numbers an ordered scalar type.
-/

namespace NonlinearProgram.Machine

open Float.Model Float.Model.UnpackedFloat

theorem rank_round (s : Sign) {m : Nat} {e : Int} (hm : m ≠ 0) (he : -1074 ≤ e) :
    Canonical (UnpackedFloat.round .binary64 s m e) ∧
      rank (UnpackedFloat.round .binary64 s m e) =
        s.apply (rounded (m * 2 ^ (e + 2148).toNat)) := by
  obtain ⟨t, ht⟩ : ∃ t, t = Format.binary64.targetExponent (totalExponent m e) := ⟨_, rfl⟩
  have htarget : -1074 ≤ t := by
    rw [ht, targetExponent_eq]
    exact le_max_right _ _
  have hpos : m * 2 ^ (e - t).toNat ≠ 0 := Nat.mul_ne_zero hm (Nat.two_pow_pos _).ne'
  have htotal : totalExponent (m * 2 ^ (e - t).toNat) (e - (e - t).toNat) = totalExponent m e := by
    unfold totalExponent
    rw [log2_mul_two_pow hm]
    omega
  have hround := rank_roundWithAccuracy s hpos (by omega : -2148 ≤ e - (e - t).toNat) (by
    rw [htotal, ← ht]
    omega)
  have hmagnitude : m * 2 ^ (e - t).toNat * 2 ^ (e - (e - t).toNat + 2148).toNat =
      m * 2 ^ (e + 2148).toNat := by
    rw [Nat.mul_assoc, ← Nat.pow_add]
    congr 2
    omega
  rw [hmagnitude] at hround
  unfold UnpackedFloat.round decreaseExponent
  simp only [← ht, Nat.shiftLeft_eq]
  exact hround

theorem rounded_pos {v k : Nat} (hk : 1074 ≤ k) (h : 2 ^ k ≤ v) : 0 < rounded v := by
  have hcut : 1074 ≤ cut v := le_max_right _ _
  unfold rounded
  rcases Nat.eq_or_lt_of_le hcut with heq | hlt
  · have hle : 1 * 2 ^ cut v ≤ v := by
      rw [Nat.one_mul]
      exact (Nat.pow_le_pow_right Nat.two_pos (heq ▸ hk)).trans h
    have hnearest := nearest_mono hle (cut v)
    rw [nearest_mul_two_pow] at hnearest
    omega
  · omega

theorem rank_normalize_pos {z e : Int} (hz : 0 < z) (he : -1074 ≤ e) (s : Sign) :
    Canonical (UnpackedFloat.normalize .binary64 z e s) ∧
      0 < rank (UnpackedFloat.normalize .binary64 z e s) := by
  obtain ⟨hcanonical, hrank⟩ := rank_round .positive (by omega : z.toNat ≠ 0) he
  have hpos : 0 < rounded (z.toNat * 2 ^ (e + 2148).toNat) :=
    rounded_pos (by omega : 1074 ≤ (e + 2148).toNat) (Nat.le_mul_of_pos_left _ (by omega))
  have hnormalize : UnpackedFloat.normalize .binary64 z e s =
      UnpackedFloat.round .binary64 .positive z.toNat e := by
    unfold UnpackedFloat.normalize
    rw [compare_gt_iff_gt.2 hz]
  rw [hnormalize, hrank]
  exact ⟨hcanonical, Int.natCast_pos.2 hpos⟩

/-- Of two finite numbers other than zero, the magnitudes are in the order of the ranks. -/
theorem magnitude_strictMono {s s' : Sign} {m m' : Nat} {e e' : Int} {h : 0 < m} {h' : 0 < m'}
    (hc : Canonical (.finite s m e h)) (hc' : Canonical (.finite s' m' e' h'))
    (hrank : rank (.finite s m e h) < rank (.finite s' m' e' h')) :
    magnitude (.finite s m e h) < magnitude (.finite s' m' e' h') := by
  have hpos : 0 < m * 2 ^ (e + 1074).toNat := Nat.mul_pos h (Nat.two_pow_pos _)
  have hpos' : 0 < m' * 2 ^ (e' + 1074).toNat := Nat.mul_pos h' (Nat.two_pow_pos _)
  have hlt := magnitude_lt hc hc'
  have hgt := magnitude_lt hc' hc
  have he := hc.2.1
  have he' := hc'.2.1
  change s.apply _ < s'.apply _ at hrank
  change s.apply (_ : Nat) < s'.apply (_ : Nat)
  generalize m * 2 ^ (e + 1074).toNat = g at *
  generalize m' * 2 ^ (e' + 1074).toNat = g' at *
  cases s <;> cases s' <;> simp only [Sign.apply] at hrank ⊢ <;> omega

theorem magnitude_shift (s : Sign) {m : Nat} {e t : Int} {h : 0 < m} (ht : t ≤ e)
    (hleast : -1074 ≤ t) : magnitude (.finite s m e h) =
      s.apply (m <<< (e - t).toNat : Nat) * 2 ^ (t + 1074).toNat := by
  have hpow : m * 2 ^ (e + 1074).toNat = m <<< (e - t).toNat * 2 ^ (t + 1074).toNat := by
    rw [Nat.shiftLeft_eq, Nat.mul_assoc, ← Nat.pow_add]
    congr 2
    omega
  have hcast : (m : Int) * 2 ^ (e + 1074).toNat =
      (m <<< (e - t).toNat : Nat) * 2 ^ (t + 1074).toNat := by
    exact_mod_cast hpow
  unfold magnitude
  simp only [hcast]
  cases s with
  | positive => rfl
  | negative => exact (Int.neg_mul _ _).symm

theorem rank_sub_pos {s s' : Sign} {m m' : Nat} {e e' : Int} {h : 0 < m} {h' : 0 < m'}
    (hc : Canonical (.finite s m e h)) (hc' : Canonical (.finite s' m' e' h'))
    (hrank : rank (.finite s m e h) < rank (.finite s' m' e' h')) :
    Canonical (UnpackedFloat.sub .binary64 (.finite s' m' e' h') (.finite s m e h)) ∧
      0 < rank (UnpackedFloat.sub .binary64 (.finite s' m' e' h') (.finite s m e h)) := by
  have hleast : -1074 ≤ min e' e := le_min hc'.2.1 hc.2.1
  have hmagnitude := magnitude_strictMono hc hc' hrank
  rw [magnitude_shift s (min_le_right e' e) hleast, magnitude_shift s' (min_le_left e' e) hleast]
    at hmagnitude
  have hpow : (0 : Int) < 2 ^ (min e' e + 1074).toNat := by positivity
  exact rank_normalize_pos (sub_pos.2 (lt_of_mul_lt_mul_right hmagnitude hpow.le)) hleast .positive

theorem rank_bounds {u : UnpackedFloat} (hu : Canonical u ∧ InRange u) :
    -(2047 * 2 ^ 52) ≤ rank u ∧ rank u ≤ 2047 * 2 ^ 52 := by
  cases hnan : u.isNaN with
  | true =>
      cases u with
      | notANumber => exact ⟨by decide, by decide⟩
      | infinity s | zero s | finite s m e h => cases hnan
  | false =>
      rcases infinity_or_isFinite hnan with rfl | rfl | hfin
      · exact ⟨by decide, by decide⟩
      · exact ⟨by decide, by decide⟩
      · obtain ⟨hlower, hupper⟩ := rank_lt_of_isFinite hu.1 hu.2 hfin
        exact ⟨hlower.le, hupper.le⟩

theorem sub_of_infinite {u v : UnpackedFloat} (hu : Canonical u ∧ InRange u)
    (hv : Canonical v ∧ InRange v) (hun : u.isNaN = false) (hvn : v.isNaN = false)
    (h : rank u < rank v) (hinfinite : u.isFinite = false ∨ v.isFinite = false) :
    UnpackedFloat.sub .binary64 v u = .infinity .positive := by
  have hubounds := rank_bounds hu
  have hvbounds := rank_bounds hv
  rcases infinity_or_isFinite hvn with rfl | rfl | hvfin
  · exact absurd hubounds.1 (not_le.2 h)
  · rcases infinity_or_isFinite hun with rfl | rfl | hufin
    · rfl
    · exact absurd h (lt_irrefl _)
    · cases u <;> first | rfl | cases hufin
  · rcases infinity_or_isFinite hun with rfl | rfl | hufin
    · cases v <;> first | rfl | cases hvfin
    · exact absurd hvbounds.2 (not_le.2 h)
    · rw [hufin, hvfin] at hinfinite
      rcases hinfinite with h | h <;> cases h

theorem rank_sub_of_rank_lt {u v : UnpackedFloat} (hu : Canonical u ∧ InRange u)
    (hv : Canonical v ∧ InRange v) (hun : u.isNaN = false) (hvn : v.isNaN = false)
    (h : rank u < rank v) :
    Canonical (UnpackedFloat.sub .binary64 v u) ∧ 0 < rank (UnpackedFloat.sub .binary64 v u) := by
  by_cases hinfinite : u.isFinite = false ∨ v.isFinite = false
  · rw [sub_of_infinite hu hv hun hvn h hinfinite]
    exact ⟨trivial, by decide⟩
  · push Not at hinfinite
    obtain ⟨hufin, hvfin⟩ := hinfinite
    cases v with
    | notANumber => cases hvn
    | infinity s' => exact absurd rfl hvfin
    | zero s' =>
        cases u with
        | notANumber => cases hun
        | infinity s => exact absurd rfl hufin
        | zero s => exact absurd h (lt_irrefl _)
        | finite s m e hm =>
            have hbound := rank_finite_lt hu.1 hu.2
            cases s with
            | positive => exact absurd h (not_lt.2 hbound.1.le)
            | negative => exact ⟨hu.1, hbound.1⟩
    | finite s' m' e' h' =>
        cases u with
        | notANumber => cases hun
        | infinity s => exact absurd rfl hufin
        | zero s => exact ⟨hv.1, h⟩
        | finite s m e hm => exact rank_sub_pos hu.1 hv.1 h

theorem cases_of_rank_pos {u : UnpackedFloat} (hu : Canonical u ∧ InRange u) (h : 0 < rank u) :
    u = .infinity .positive ∨ ∃ m e hm, u = .finite .positive m e hm := by
  cases u with
  | notANumber => exact absurd h (lt_irrefl _)
  | zero s => exact absurd h (lt_irrefl _)
  | infinity s =>
      cases s with
      | positive => exact .inl rfl
      | negative => exact absurd h (by decide)
  | finite s m e hm =>
      cases s with
      | positive => exact .inr ⟨m, e, hm, rfl⟩
      | negative =>
          have hbound := (rank_finite_lt hu.1 hu.2).1
          change 0 < -((m : Int) + (e + 1074) * 2 ^ 52) at h
          omega

theorem eq_of_rank_eq {u v : UnpackedFloat} (hu : Canonical u ∧ InRange u)
    (hv : Canonical v ∧ InRange v) (hpos : 0 < rank u) (h : rank u = rank v) : u = v := by
  rcases cases_of_rank_pos hu hpos with rfl | ⟨m, e, hm, rfl⟩
  · rcases cases_of_rank_pos hv (h ▸ hpos) with rfl | ⟨m', e', hm', rfl⟩
    · rfl
    · exact absurd h (rank_finite_lt hv.1 hv.2).2.ne'
  · rcases cases_of_rank_pos hv (h ▸ hpos) with rfl | ⟨m', e', hm', rfl⟩
    · exact absurd h (rank_finite_lt hu.1 hu.2).2.ne
    · obtain ⟨hmantissa, hexponent⟩ := eq_of_rank_finite hu.1 hv.1 h
      exact finite_congr hmantissa hexponent

theorem isNaN_of_rank_pos {u : UnpackedFloat} (h : 0 < rank u) : u.isNaN = false := by
  cases u with
  | notANumber => exact absurd h (lt_irrefl _)
  | infinity s | zero s | finite s m e hm => rfl

theorem less_iff_rank {a b : Float} (ha : Scalar.isNaN a = false) (hb : Scalar.isNaN b = false) :
    Scalar.less a b = true ↔ rank (parts a) < rank (parts b) := by
  rw [← not_le, ← atMost_iff_rank hb ha, LawfulScalar.atMost_eq_not_less hb ha]
  simp

theorem rank_parts_zero :
    rank (parts (@OfScientific.ofScientific Float Scalar.toOfScientific 0 true 1)) = 0 := by
  rw [parts_zero]
  rfl

theorem rank_parts_infinity : rank (parts Scalar.infinity) = 2047 * 2 ^ 52 := by
  rw [parts_infinity]
  rfl

end NonlinearProgram.Machine

namespace NonlinearProgram

open Machine Scalar LawfulScalar

instance : OrderedScalar Float where
  atMost_of_less := by
    intro a b h
    obtain ⟨ha, hb⟩ := isNaN_of_less h
    exact (atMost_iff_rank ha hb).2 ((less_iff_rank ha hb).1 h).le
  atMost_trans := by
    intro a b c hab hbc
    obtain ⟨ha, hb⟩ := isNaN_of_atMost hab
    obtain ⟨-, hc⟩ := isNaN_of_atMost hbc
    rw [atMost_iff_rank ha hb] at hab
    rw [atMost_iff_rank hb hc] at hbc
    exact (atMost_iff_rank ha hc).2 (hab.trans hbc)
  atMost_infinity := by
    intro a ha
    rw [atMost_iff_rank ha isNaN_infinity, rank_parts_infinity]
    exact (rank_bounds (canonical_parts a)).2
  zero_less_infinity := by
    rw [less_iff_rank isNaN_zero isNaN_infinity, rank_parts_infinity, rank_parts_zero]
    decide
  eq_of_atMost := by
    intro a b hpos hab hba
    obtain ⟨ha, hb⟩ := isNaN_of_atMost hab
    rw [less_iff_rank isNaN_zero ha, rank_parts_zero] at hpos
    rw [atMost_iff_rank ha hb] at hab
    rw [atMost_iff_rank hb ha] at hba
    exact parts_injective (eq_of_rank_eq (canonical_parts a) (canonical_parts b) hpos
      (le_antisymm hab hba))
  zero_less_sub := by
    intro a b h
    obtain ⟨ha, hb⟩ := isNaN_of_less h
    rw [less_iff_rank ha hb] at h
    rw [isNaN_eq] at ha hb
    obtain ⟨hcanonical, hpos⟩ := rank_sub_of_rank_lt (canonical_parts a) (canonical_parts b) ha hb h
    have hrank : 0 < rank (parts (b - a)) := by
      have hpacked := rank_unpack_pack hcanonical
      rw [parts_sub, hpacked]
      omega
    have hnan : isNaN (b - a) = false := by
      rw [isNaN_eq]
      exact isNaN_of_rank_pos hrank
    rw [less_iff_rank isNaN_zero hnan, rank_parts_zero]
    exact hrank

end NonlinearProgram
