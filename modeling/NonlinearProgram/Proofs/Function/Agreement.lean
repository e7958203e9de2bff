import Mathlib.Data.Finset.Fold
import NonlinearProgram.Proofs.Function.Discrepancy
import NonlinearProgram.Proofs.Scalar.Fractions

/-!
# Entries that agree with their estimates

Over exact scalars the error of some entries is within a tolerance exactly where the entries and
their estimates are fractions that are close to each other. An infinity on either side, or what is
not a number, makes a difference that no fraction bounds. The largest difference takes it over, and
it is not divided away: the scale of an error is at least one, and where it is infinite as well the
error is not a number.
-/

namespace NonlinearProgram

open Exact Scalar

namespace Exact

/-- The infinity above all fractions, or what is not a number. -/
def Unbounded (x : Exact) : Prop := x = infinity ∨ x = notANumber

theorem unbounded_modulus_sub {a b : Exact} (h : isFinite a = false ∨ isFinite b = false) :
    Unbounded (modulus (a - b)) := by
  cases a with
  | notANumber => exact .inr rfl
  | negativeInfinity =>
      cases b with
      | notANumber | negativeInfinity => exact .inr rfl
      | finite q | infinity => exact .inl rfl
  | infinity =>
      cases b with
      | notANumber | infinity => exact .inr rfl
      | negativeInfinity | finite q => exact .inl rfl
  | finite p =>
      cases b with
      | finite q => rcases h with h | h <;> cases h
      | negativeInfinity | infinity => exact .inl rfl
      | notANumber => exact .inr rfl

theorem unbounded_peak (a b : Exact) (h : Unbounded a ∨ Unbounded b) : Unbounded (peak a b) := by
  rcases h with (rfl | rfl) | (rfl | rfl)
  · cases b with
    | notANumber => exact .inr rfl
    | negativeInfinity | infinity => exact .inl rfl
    | finite q => exact .inl (by rw [peak, isNaN_finite]; rfl)
  · exact .inr rfl
  · cases a with
    | notANumber => exact .inr rfl
    | negativeInfinity | infinity => exact .inl rfl
    | finite q => exact .inl (by rw [peak, isNaN_finite]; rfl)
  · cases a with
    | negativeInfinity | infinity | notANumber => exact .inr rfl
    | finite q => exact .inr (by rw [peak, isNaN_finite]; rfl)

namespace Unbounded

variable {x : Exact} (h : Unbounded x)

include h

theorem atMost_eq_false (t : Rat) : atMost x (finite t) = false := by
  rcases h with rfl | rfl <;> rfl

theorem div_larger_one (a : Exact) : Unbounded (x / larger 1.0 a) := by
  have hscale : larger 1.0 a = infinity ∨ ∃ s, 0 < s ∧ larger 1.0 a = finite s := by
    unfold larger
    rw [one_eq]
    split
    · next hless =>
        cases a with
        | infinity => exact .inl rfl
        | notANumber | negativeInfinity => cases hless
        | finite s =>
            rw [less_finite_finite, decide_eq_true_eq] at hless
            exact .inr ⟨s, zero_lt_one.trans hless, rfl⟩
    · exact .inr ⟨1, zero_lt_one, rfl⟩
  rcases h with rfl | rfl
  · rcases hscale with hscale | ⟨s, hs, hscale⟩
    · exact .inr (by rw [hscale]; rfl)
    · refine .inl ?_
      rw [hscale]
      change ofSign (1 * if s < 0 then -1 else 1) = infinity
      rw [if_neg hs.not_gt]
      rfl
  · have hNaN := CancellingScalar.isNaN_div (a := notANumber) (b := larger 1.0 a) rfl
    exact .inr ((isNaN_iff _).1 hNaN)

end Unbounded

/-- An entry or an estimate that is no fraction makes an error that no fraction bounds. -/
theorem unbounded_discrepancy {ι : Type} {xs : List ι} {A Q : ι → Exact} {j : ι} (hj : j ∈ xs)
    (h : isFinite (A j) = false ∨ isFinite (Q j) = false) :
    Unbounded (discrepancy (xs.map A) (xs.map Q)) := by
  have hnonempty : ¬(xs.map A).isEmpty = true := by
    simpa using List.ne_nil_of_mem hj
  unfold discrepancy
  rw [if_neg hnonempty]
  refine (peakOf_of_exists unbounded_peak ⟨_, ?_, unbounded_modulus_sub h⟩).div_larger_one _
  rw [List.zipWith_map, List.zipWith_self, List.map_map]
  exact List.mem_map.2 ⟨j, hj, rfl⟩

theorem peak_finite_finite (p q : Rat) : peak (finite p) (finite q) = finite (max p q) := by
  rw [peak, isNaN_finite, isNaN_finite, less_finite_finite, max_def_lt, apply_ite finite]
  simp

theorem larger_one_finite (p : Rat) : larger 1.0 (finite p) = finite (max 1 p) := by
  rw [larger, one_eq, less_finite_finite, max_def_lt, apply_ite finite]
  simp

/-- The largest of some fractions is told by the bounds that all of them keep. -/
theorem exists_foldl_peak (qs : List Rat) (q : Rat) :
    ∃ p, (qs.map finite).foldl peak (finite q) = finite p ∧
      ∀ c, p ≤ c ↔ q ≤ c ∧ ∀ r ∈ qs, r ≤ c := by
  induction qs generalizing q with
  | nil => exact ⟨q, rfl, by simp⟩
  | cons r qs ih =>
      obtain ⟨p, hp, hbounds⟩ := ih (max q r)
      refine ⟨p, ?_, fun c => ?_⟩
      · rw [List.map_cons, List.foldl_cons, peak_finite_finite, hp]
      · rw [hbounds, max_le_iff, List.forall_mem_cons, and_assoc]

theorem exists_peakOf {qs : List Rat} (h : qs ≠ []) :
    ∃ p, peakOf (qs.map finite) = finite p ∧ ∀ c, p ≤ c ↔ ∀ q ∈ qs, q ≤ c := by
  cases qs with
  | nil => exact absurd rfl h
  | cons q qs =>
      obtain ⟨p, hp, hbounds⟩ := exists_foldl_peak qs q
      exact ⟨p, hp, fun c => by rw [hbounds, List.forall_mem_cons]⟩

end Exact

section Agreement

variable {ι : Type} [Fintype ι]

def scaleOf (a : ι → Rat) : Rat := Finset.univ.fold max 1 fun j => |a j|

/-- Entries and estimates that are fractions, and each entry as close to its estimate as a tolerance
says, relative to the scale of the entries. -/
def Agrees (t : Rat) (analytic approximate : ι → Exact) : Prop :=
  ∃ a q : ι → Rat, (∀ j, analytic j = finite (a j)) ∧ (∀ j, approximate j = finite (q j)) ∧
    ∀ j, |a j - q j| ≤ t * scaleOf a

theorem one_le_scaleOf (a : ι → Rat) : 1 ≤ scaleOf a :=
  (Finset.fold_max_le (scaleOf a)).1 le_rfl |>.1

theorem agrees_finite_iff {t : Rat} {a q : ι → Rat} :
    Agrees t (fun j => finite (a j)) (fun j => finite (q j)) ↔
      ∀ j, |a j - q j| ≤ t * scaleOf a := by
  constructor
  · rintro ⟨a', q', ha, hq, h⟩
    obtain rfl : a = a' := funext fun j => finite.inj (ha j)
    obtain rfl : q = q' := funext fun j => finite.inj (hq j)
    exact h
  · exact fun h => ⟨a, q, fun _ => rfl, fun _ => rfl, h⟩

theorem Agrees.isFinite {t : Rat} {analytic approximate : ι → Exact}
    (h : Agrees t analytic approximate) (j : ι) :
    isFinite (analytic j) = true ∧ isFinite (approximate j) = true := by
  obtain ⟨a, q, ha, hq, -⟩ := h
  exact ⟨(isFinite_iff _).2 ⟨a j, ha j⟩, (isFinite_iff _).2 ⟨q j, hq j⟩⟩

section Listed

variable {xs : List ι} (hxs : ∀ j, j ∈ xs)

include hxs

omit [Fintype ι] in
/-- The largest modulus of some fractions is told by the bounds that all of them keep. -/
theorem exists_peakOf_moduli (hempty : xs ≠ []) (b : ι → Rat) :
    ∃ p, peakOf ((xs.map fun j => finite (b j)).map modulus) = finite p ∧
      ∀ c, p ≤ c ↔ ∀ j, |b j| ≤ c := by
  have hmoduli : (xs.map fun j => finite (b j)).map modulus =
      (xs.map fun j => |b j|).map finite := by
    rw [List.map_map, List.map_map]
    exact List.map_congr_left fun j _ => modulus_finite (b j)
  have hnonempty : (xs.map fun j => |b j|) ≠ [] := by simpa using hempty
  obtain ⟨p, hp, hbounds⟩ := exists_peakOf hnonempty
  refine ⟨p, by rw [hmoduli, hp], fun c => ?_⟩
  rw [hbounds, List.forall_mem_map]
  exact ⟨fun h j => h j (hxs j), fun h j _ => h j⟩

theorem larger_one_peakOf (hempty : xs ≠ []) (a : ι → Rat) :
    larger 1.0 (peakOf ((xs.map fun j => finite (a j)).map modulus)) = finite (scaleOf a) := by
  obtain ⟨p, hp, hbounds⟩ := exists_peakOf_moduli hxs hempty a
  rw [hp, larger_one_finite]
  refine congrArg finite (eq_of_forall_ge_iff fun c => ?_)
  rw [max_le_iff, hbounds, scaleOf, Finset.fold_max_le]
  simp

/-- The error of fractions is within a tolerance where each is as close to its estimate as the
tolerance says. -/
theorem discrepancy_finite_atMost_iff {t : Rat} (ht : 0 ≤ t) (a q : ι → Rat) :
    atMost (discrepancy (xs.map fun j => finite (a j)) (xs.map fun j => finite (q j))) (finite t)
      = true ↔ ∀ j, |a j - q j| ≤ t * scaleOf a := by
  unfold discrepancy
  by_cases hempty : xs = []
  · subst hempty
    simp only [List.map_nil, List.isEmpty_nil, if_true, zero_eq, atMost_finite_finite,
      decide_eq_true_eq]
    exact ⟨fun _ j => absurd (hxs j) List.not_mem_nil, fun _ => ht⟩
  have hdifferences : List.zipWith (· - ·) (xs.map fun j => finite (a j))
      (xs.map fun j => finite (q j)) = xs.map fun j => finite (a j - q j) := by
    rw [List.zipWith_map, List.zipWith_self]
    exact List.map_congr_left fun j _ => finite_sub_finite (a j) (q j)
  obtain ⟨p, hp, hbounds⟩ := exists_peakOf_moduli hxs hempty fun j => a j - q j
  have hpos : 0 < scaleOf a := zero_lt_one.trans_le (one_le_scaleOf a)
  rw [if_neg (by simpa using hempty), hdifferences, hp, larger_one_peakOf hxs hempty,
    finite_div_finite hpos.ne', atMost_finite_finite, decide_eq_true_eq, div_le_iff₀ hpos, hbounds]

/-- The error of some entries is within a tolerance exactly where they agree with their
estimates. -/
theorem discrepancy_atMost_iff_agrees {t : Rat} (ht : 0 ≤ t) (A Q : ι → Exact) :
    atMost (discrepancy (xs.map A) (xs.map Q)) (finite t) = true ↔ Agrees t A Q := by
  by_cases hfinite : ∀ j, isFinite (A j) = true ∧ isFinite (Q j) = true
  · have hA (j : ι) : ∃ a, A j = finite a := (isFinite_iff _).1 (hfinite j).1
    have hQ (j : ι) : ∃ q, Q j = finite q := (isFinite_iff _).1 (hfinite j).2
    choose a ha using hA
    choose q hq using hQ
    obtain ⟨rfl, rfl⟩ := And.intro (funext ha) (funext hq)
    rw [discrepancy_finite_atMost_iff hxs ht, agrees_finite_iff]
  · obtain ⟨j, hj⟩ := not_forall.1 hfinite
    rw [not_and_or, Bool.not_eq_true, Bool.not_eq_true] at hj
    rw [(unbounded_discrepancy (hxs j) hj).atMost_eq_false]
    exact ⟨nofun, fun h => absurd h.isFinite hfinite⟩

end Listed

end Agreement

end NonlinearProgram
