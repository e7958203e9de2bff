import NonlinearProgram.Function.DerivativeCheck
import NonlinearProgram.Proofs.Attempt
import NonlinearProgram.Proofs.Scalar.Cancelling

/-!
# Errors of estimates

The error of a check without its ways to fail: the largest difference of two entries over the
largest analytic entry, which counts as one where it is below that. An entry that is not a number
makes the largest one not a number, wherever it stands.
-/

namespace NonlinearProgram

open Scalar

variable {α : Type} [Scalar α]

def peakOf : List α → α
  | [] => 0.0
  | first :: rest => rest.foldl peak first

def discrepancy (analytic approximate : List α) : α :=
  if analytic.isEmpty then 0.0
  else peakOf ((List.zipWith (· - ·) analytic approximate).map modulus)
    / larger 1.0 (peakOf (analytic.map modulus))

theorem largest_eq_ok {xs : List α} (h : xs ≠ []) : largest xs = .ok (peakOf xs) := by
  cases xs with
  | nil => exact absurd rfl h
  | cons x xs => rfl

theorem relativeError_nil (shape : List Nat) (approximate : Tensor α) :
    relativeError ⟨shape, []⟩ approximate = .ok (discrepancy [] approximate.entries) := rfl

theorem relativeError_eq_ok (shape : List Nat) {A Q : List α} (h : A.length = Q.length) :
    relativeError ⟨shape, A⟩ ⟨shape, Q⟩ = .ok (discrepancy A Q) := by
  by_cases hempty : A = []
  · rw [hempty]
    exact relativeError_nil shape _
  · have hA : A.map modulus ≠ [] := by simpa using hempty
    have hdifferences : (List.zipWith (· - ·) A Q).map modulus ≠ [] := by
      rw [← List.length_pos_iff, List.length_map, List.length_zipWith, ← h, Nat.min_self]
      exact List.length_pos_iff.2 hempty
    have hpair : (Tensor.broadcast (· - ·) ⟨shape, A⟩ ⟨shape, Q⟩ : Except (Error α) (Tensor α)) =
        .ok ⟨shape, List.zipWith (· - ·) A Q⟩ := by
      rw [Tensor.broadcast, if_pos rfl]
    have hnonempty : ¬A.isEmpty = true := by simpa using hempty
    unfold relativeError discrepancy
    rw [if_neg hnonempty, if_neg hnonempty, largest_eq_ok hA, hpair]
    simp only [ok_bind, largest_eq_ok hdifferences]
    rfl

namespace DerivativeCheck

theorem outcome_conclude {order : String} {f : Function α} {index tolerance : Datum α}
    {analytic approximate : Tensor α} {e : α} (h : relativeError analytic approximate = .ok e) :
    (conclude order f index tolerance analytic approximate).outcome =
      .ok ⟨f.name, index, e, tolerance, analytic, approximate⟩ := by
  unfold conclude
  rw [Attempt.outcome_liftM_bind h, Attempt.outcome_bind, Attempt.outcome_liftM_logged]
  rfl

theorem passed_eq_ok {check : DerivativeCheck α} {t : α} (h : check.tolerance.toReal = .ok t) :
    check.passed = .ok (atMost check.maxError t) := by
  rw [passed, h]
  rfl

theorem demand_append {checks : List (DerivativeCheck α)}
    (h : ∀ check ∈ checks, check.passed = .ok true) (rest : List (DerivativeCheck α)) :
    demand (checks ++ rest) = demand rest := by
  induction checks with
  | nil => rfl
  | cons check checks ih =>
      rw [List.forall_mem_cons] at h
      rw [List.cons_append, demand, h.1, ok_bind, if_pos rfl, ih h.2]

theorem demand_eq_ok_iff {checks : List (DerivativeCheck α)} :
    demand checks = .ok () ↔ ∀ check ∈ checks, check.passed = .ok true := by
  induction checks with
  | nil => exact ⟨fun _ => nofun, fun _ => rfl⟩
  | cons check checks ih =>
      rw [demand, List.forall_mem_cons, bind_eq_ok_iff]
      constructor
      · rintro ⟨passed, hpassed, h⟩
        cases passed with
        | true => exact ⟨hpassed, ih.1 h⟩
        | false =>
            obtain ⟨_, -, h⟩ := bind_eq_ok_iff.1 h
            cases h
      · rintro ⟨hpassed, h⟩
        exact ⟨true, hpassed, ih.2 h⟩

/-- A check that does not pass is the error, whatever the later ones come to. -/
theorem demand_cons_of_failed {check : DerivativeCheck α} {t : α}
    (ht : check.tolerance.toReal = .ok t) (h : atMost check.maxError t = false)
    (rest : List (DerivativeCheck α)) : demand (check :: rest) =
      .error (.badGradient check.functionName.write check.index check.maxError t) := by
  rw [demand, passed_eq_ok ht, h, ht]
  rfl

end DerivativeCheck

/-- Where the larger of two entries takes over a property that either has, so does the largest. -/
theorem foldl_peak_of_exists {P : α → Prop} (hpeak : ∀ a b, P a ∨ P b → P (peak a b)) {xs : List α}
    {a : α} (h : P a ∨ ∃ x ∈ xs, P x) : P (xs.foldl peak a) := by
  induction xs generalizing a with
  | nil => exact h.resolve_right (by simp)
  | cons x xs ih =>
      rw [List.foldl_cons]
      refine ih ?_
      rcases h with ha | ⟨y, hy, hP⟩
      · exact .inl (hpeak a x (.inl ha))
      · rcases List.mem_cons.1 hy with rfl | hy
        · exact .inl (hpeak a y (.inr hP))
        · exact .inr ⟨y, hy, hP⟩

theorem peakOf_of_exists {P : α → Prop} (hpeak : ∀ a b, P a ∨ P b → P (peak a b)) {xs : List α}
    (h : ∃ x ∈ xs, P x) : P (peakOf xs) := by
  obtain ⟨x, hx, hP⟩ := h
  cases xs with
  | nil => cases hx
  | cons y xs =>
      refine foldl_peak_of_exists hpeak ?_
      rcases List.mem_cons.1 hx with rfl | hx
      · exact .inl hP
      · exact .inr ⟨x, hx, hP⟩

theorem isNaN_peak (a b : α) (h : isNaN a = true ∨ isNaN b = true) : isNaN (peak a b) = true := by
  unfold peak
  by_cases ha : isNaN a = true
  · rw [if_pos ha, ha]
  · have hb : isNaN b = true := h.resolve_left ha
    rw [if_neg ha, hb, Bool.true_or, if_pos rfl, hb]

theorem peakOf_replicate_zero (count : Nat) : peakOf (List.replicate count (0.0 : α)) = 0.0 := by
  have hpeak : peak (0.0 : α) 0.0 = 0.0 := by simp [peak]
  have hfold : ∀ count, (List.replicate count (0.0 : α)).foldl peak 0.0 = 0.0 := by
    intro count
    induction count with
    | zero => rfl
    | succ count ih => rw [List.replicate_succ, List.foldl_cons, hpeak, ih]
  cases count with
  | zero => rfl
  | succ count => exact hfold count

section Cancelling

variable [CancellingScalar α]

open LawfulScalar OrderedScalar CancellingScalar

theorem zero_less_larger_one (a : α) : less 0.0 (larger 1.0 a) = true := by
  unfold larger
  split
  · next h =>
      obtain ⟨hone, ha⟩ := isNaN_of_less h
      by_contra hless
      have hle : atMost a 0.0 = true := by
        rw [atMost_eq_not_less ha isNaN_zero, Bool.eq_false_iff.2 hless, Bool.not_false]
      have hone_le := atMost_trans (atMost_of_less h) hle
      rw [atMost_eq_not_less hone isNaN_zero, zero_less_one] at hone_le
      cases hone_le
  · exact zero_less_one

theorem discrepancy_self {A : List α} (h : ∀ a ∈ A, isFinite a = true) : discrepancy A A = 0.0 := by
  have hzeros : A.map (modulus ∘ fun a => a - a) = List.replicate A.length 0.0 := by
    rw [← List.map_const']
    refine List.map_congr_left fun a ha => ?_
    rw [Function.comp_apply, CancellingScalar.sub_self (h a ha), modulus_zero]
  unfold discrepancy
  split
  · rfl
  · rw [List.zipWith_self, List.map_map, hzeros, peakOf_replicate_zero,
      CancellingScalar.zero_div (zero_less_larger_one _)]

/-- Against themselves entries are within every tolerance from zero on where they are finite, and
else within none. -/
theorem discrepancy_self_atMost_iff {t : α} (ht : atMost 0.0 t = true) (A : List α) :
    atMost (discrepancy A A) t = true ↔ ∀ a ∈ A, isFinite a = true := by
  constructor
  · intro hle a ha
    by_contra hfinite
    have hNaN : isNaN (modulus (a - a)) = true :=
      isNaN_modulus (isNaN_sub_self (Bool.eq_false_iff.2 hfinite))
    have hpeak : isNaN (peakOf ((List.zipWith (· - ·) A A).map modulus)) = true := by
      refine peakOf_of_exists isNaN_peak ⟨_, ?_, hNaN⟩
      rw [List.zipWith_self, List.map_map]
      exact List.mem_map.2 ⟨a, ha, rfl⟩
    have hnonempty : ¬A.isEmpty = true := by
      simpa using List.ne_nil_of_mem ha
    have hnumber := (isNaN_of_atMost hle).1
    rw [discrepancy, if_neg hnonempty, isNaN_div hpeak] at hnumber
    cases hnumber
  · intro hfinite
    rw [discrepancy_self hfinite]
    exact ht

end Cancelling

end NonlinearProgram
