import Mathlib.Data.Nat.Basic
import Mathlib.Tactic.Linarith

/-!
# Rounding to the nearest

The machine rounds a magnitude by shifting digits out of it, and keeps of what is lost one digit and
whether there was more. That is rounding to the nearest, ties to even, and rounding a larger
magnitude gives no smaller result. A magnitude is counted in units of `2 ^ -2148`, in which the
product of any two machine's numbers is whole.
-/

namespace NonlinearProgram.Machine

open Float.Model Float.Model.UnpackedFloat

def nearest (x n : Nat) : Nat :=
  if n = 0 then x else (x + 2 ^ (n - 1) - 1 + x / 2 ^ n % 2) / 2 ^ n

theorem nearest_zero (x : Nat) : nearest x 0 = x := rfl

theorem nearest_succ (x n : Nat) :
    nearest x (n + 1) = (x + 2 ^ n - 1 + x / 2 ^ (n + 1) % 2) / 2 ^ (n + 1) := rfl

theorem nearest_mono {x y : Nat} (h : x ≤ y) (n : Nat) : nearest x n ≤ nearest y n := by
  cases n with
  | zero => exact h
  | succ n =>
      rw [nearest_succ, nearest_succ]
      apply Nat.div_le_div_right
      have hpos := Nat.two_pow_pos n
      rcases Nat.eq_or_lt_of_le h with rfl | hlt
      · exact Nat.le_refl _
      · have hx := Nat.mod_lt (x / 2 ^ (n + 1)) Nat.two_pos
        omega

theorem nearest_mul_two_pow (q n : Nat) : nearest (q * 2 ^ n) n = q := by
  cases n with
  | zero => exact Nat.mul_one q
  | succ n =>
      have hpos := Nat.two_pow_pos n
      have hparity := Nat.mod_lt q Nat.two_pos
      rw [nearest_succ, Nat.mul_div_cancel _ (Nat.two_pow_pos _)]
      have hsum : q * 2 ^ (n + 1) + 2 ^ n - 1 + q % 2 = (2 ^ n - 1 + q % 2) + q * 2 ^ (n + 1) := by
        omega
      rw [hsum, Nat.add_mul_div_right _ _ (Nat.two_pow_pos _), Nat.div_eq_of_lt, Nat.zero_add]
      rw [Nat.pow_succ]
      omega

theorem nearest_scale (x n k : Nat) : nearest (x * 2 ^ k) (n + k) = nearest x n := by
  cases n with
  | zero => rw [Nat.zero_add, nearest_mul_two_pow, nearest_zero]
  | succ n =>
      have hk := Nat.two_pow_pos k
      have hpow : 2 ^ (n + k + 1) = 2 ^ k * 2 ^ (n + 1) := by
        rw [← Nat.pow_add]
        congr 1
        omega
      have hquot : x * 2 ^ k / 2 ^ (n + k + 1) = x / 2 ^ (n + 1) := by
        rw [hpow, ← Nat.div_div_eq_div_mul, Nat.mul_div_cancel _ hk]
      obtain ⟨b, hb⟩ : ∃ b, x + 2 ^ n = b + 1 :=
        Nat.exists_eq_add_one.2 (Nat.add_pos_right x (Nat.two_pow_pos n))
      have hsum : x * 2 ^ k + 2 ^ (n + k) = (b + 1) * 2 ^ k := by
        rw [Nat.pow_add, ← Nat.add_mul, hb]
      rw [show n + 1 + k = n + k + 1 by omega, nearest_succ, nearest_succ, hquot, hsum, hb, hpow,
        ← Nat.div_div_eq_div_mul]
      congr 1
      have hparity := Nat.mod_lt (x / 2 ^ (n + 1)) Nat.two_pos
      rw [Nat.add_one_mul]
      rcases Nat.mod_two_eq_zero_or_one (x / 2 ^ (n + 1)) with hr | hr
      · rw [hr, Nat.add_zero, Nat.add_zero, Nat.add_sub_cancel]
        apply Nat.div_eq_of_lt_le
        · omega
        · rw [Nat.succ_mul]
          omega
      · rw [hr, Nat.add_sub_cancel, Nat.sub_add_cancel (by omega), ← Nat.succ_mul,
          Nat.mul_div_cancel _ hk]

/-- Where a magnitude in units of `2 ^ -2148` is cut: it keeps 53 binary digits, and none below
`2 ^ -1074`. -/
def cut (v : Nat) : Nat := max (v.log2 - 52) 1074

def rounded (v : Nat) : Nat := nearest v (cut v) + (cut v - 1074) * 2 ^ 52

theorem cut_mono {v w : Nat} (h : v ≤ w) : cut v ≤ cut w := by
  have hlog : v.log2 ≤ w.log2 := by
    cases v with
    | zero => exact Nat.zero_le _
    | succ v =>
      rw [Nat.le_log2 (by omega)]
      exact (Nat.log2_self_le (by omega)).trans h
  unfold cut
  omega

theorem nearest_cut_le (v : Nat) : nearest v (cut v) ≤ 2 ^ 53 := by
  have hlt : v ≤ 2 ^ 53 * 2 ^ cut v := by
    rw [← Nat.pow_add]
    refine (Nat.lt_log2_self).le.trans (Nat.pow_le_pow_right Nat.two_pos ?_)
    unfold cut
    omega
  calc nearest v (cut v) ≤ nearest (2 ^ 53 * 2 ^ cut v) (cut v) := nearest_mono hlt _
    _ = 2 ^ 53 := nearest_mul_two_pow _ _

theorem le_nearest_cut {v : Nat} (h : 1074 < cut v) : 2 ^ 52 ≤ nearest v (cut v) := by
  have hcut : cut v = v.log2 - 52 := by
    unfold cut at h ⊢
    omega
  have hne : v ≠ 0 := by
    rintro rfl
    exact absurd h (by decide)
  have hle : 2 ^ 52 * 2 ^ cut v ≤ v := by
    rw [← Nat.pow_add, hcut]
    refine (Nat.pow_le_pow_right Nat.two_pos ?_).trans (Nat.log2_self_le hne)
    omega
  calc 2 ^ 52 = nearest (2 ^ 52 * 2 ^ cut v) (cut v) := (nearest_mul_two_pow _ _).symm
    _ ≤ nearest v (cut v) := nearest_mono hle _

theorem rounded_mono {v w : Nat} (h : v ≤ w) : rounded v ≤ rounded w := by
  have hcut := cut_mono h
  rcases Nat.eq_or_lt_of_le hcut with heq | hlt
  · unfold rounded
    rw [heq]
    exact Nat.add_le_add_right (nearest_mono h _) _
  · -- Between two cuts lies a power of two: the smaller magnitude is rounded to at most that, the
    -- larger one to at least that.
    have hbase : 1074 ≤ cut v := le_max_right _ _
    have hv := nearest_cut_le v
    have hw := le_nearest_cut (hbase.trans_lt hlt)
    unfold rounded
    omega

/-- After some shifts the mantissa is a quotient, and the residual digits tell the remainder. -/
theorem shiftRight_exact (m n : Nat) :
    ExtendedMantissa.ofMantissaAndAccuracy m .exact >>> (n + 1) =
      ⟨m / 2 ^ (n + 1), m / 2 ^ n % 2 != 0, m % 2 ^ n != 0⟩ := by
  induction n with
  | zero =>
      change ExtendedMantissa.mk (m / 2) (m % 2 != 0) false = _
      rw [Nat.pow_one, Nat.pow_zero, Nat.div_one, Nat.mod_one]
      rfl
  | succ n ih =>
      change ExtendedMantissa.shiftRightOne
        (ExtendedMantissa.ofMantissaAndAccuracy m .exact >>> (n + 1)) = _
      have hsticky : (m / 2 ^ n % 2 != 0 || m % 2 ^ n != 0) = (m % 2 ^ (n + 1) != 0) := by
        rw [Nat.mod_pow_succ]
        rcases Nat.mod_two_eq_zero_or_one (m / 2 ^ n) with h | h
        · simp [h]
        · simp [h]
      rw [ih, ExtendedMantissa.shiftRightOne, hsticky, Nat.div_div_eq_div_mul, ← Nat.pow_succ]

/-- Rounding to the nearest in terms of the quotient, the digit after it and the rest. -/
theorem nearest_succ_eq {p q b t : Nat} (hp : 0 < p) (ht : t < p) (hb : b < 2) :
    (t + p * b + 2 * p * q + p - 1 + q % 2) / (2 * p) =
      if b = 0 then q else if t = 0 then q + q % 2 else q + 1 := by
  have hparity := Nat.mod_lt q Nat.two_pos
  have hsum : t + p * b + 2 * p * q + p - 1 + q % 2 =
      (t + p * b + p - 1 + q % 2) + 2 * p * q := by
    omega
  rw [hsum, Nat.add_mul_div_left _ _ (by omega), Nat.add_comm]
  by_cases hb0 : b = 0
  · rw [if_pos hb0, hb0, Nat.mul_zero, Nat.div_eq_of_lt (by omega), Nat.add_zero]
  · have hb1 : b = 1 := by omega
    rw [if_neg hb0, hb1, Nat.mul_one]
    by_cases ht0 : t = 0
    · rw [if_pos ht0, ht0]
      rcases Nat.mod_two_eq_zero_or_one q with hq | hq
      · rw [hq, Nat.div_eq_of_lt (by omega)]
      · rw [hq, show 0 + p + p - 1 + 1 = 2 * p by omega, Nat.div_self (by omega)]
    · rw [if_neg ht0]
      congr 1
      apply Nat.div_eq_of_lt_le
      · omega
      · omega

theorem roundedMantissa_mk (q b t : Nat) :
    (ExtendedMantissa.mk q (b != 0) (t != 0)).roundedMantissa =
      if b = 0 then q else if t = 0 then q + q % 2 else q + 1 := by
  cases b with
  | zero => cases t <;> rfl
  | succ b => cases t <;> rfl

theorem roundedMantissa_shiftRight (m n : Nat) :
    (ExtendedMantissa.ofMantissaAndAccuracy m .exact >>> n).roundedMantissa = nearest m n := by
  cases n with
  | zero => rfl
  | succ n =>
      have hpos := Nat.two_pow_pos n
      have hrest := Nat.mod_lt m hpos
      have hdigit := Nat.mod_lt (m / 2 ^ n) Nat.two_pos
      have hm : m = m % 2 ^ n + 2 ^ n * (m / 2 ^ n % 2) + 2 * 2 ^ n * (m / 2 ^ (n + 1)) := by
        rw [← Nat.pow_succ', ← Nat.mod_pow_succ, Nat.mod_add_div]
      have hnearest := nearest_succ_eq (q := m / 2 ^ (n + 1)) hpos hrest hdigit
      rw [← hm, ← Nat.pow_succ'] at hnearest
      rw [shiftRight_exact, nearest_succ, hnearest, roundedMantissa_mk]

end NonlinearProgram.Machine
