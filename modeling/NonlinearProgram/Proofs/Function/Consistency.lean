import NonlinearProgram.Proofs.Function.Agreement
import NonlinearProgram.Proofs.Function.Contract
import NonlinearProgram.Proofs.Function.FiniteDifference

/-!
# Checks that tell consistent derivatives

All derivatives of a function are checked at a point by what the function comes to there and a step
ahead of it and behind it in every variable. Where all of this can be told, so can the outcome of
every check, and the first check that does not pass is the error. Over exact scalars a check passes
exactly where the derivative agrees with its estimate.
-/

namespace NonlinearProgram

open Scalar

variable {α : Type} [Scalar α]

namespace Function

/-- What all checks of a function at a point rest on: its values a step ahead of the point and a
step behind it in every variable, and its gradients at the point. For a function of the highest tier
there are its gradients ahead and behind and its Hessians as well. -/
structure Samples (f : Function α) (x : Datum α) (ε : α) where
  point : List α
  valueAhead : Fin f.inputSize → Fin f.outputSize → α
  valueBehind : Fin f.inputSize → Fin f.outputSize → α
  slope : Fin f.outputSize → Fin f.inputSize → α
  slopeAhead : Fin f.inputSize → Fin f.outputSize → Fin f.inputSize → α
  slopeBehind : Fin f.inputSize → Fin f.outputSize → Fin f.inputSize → α
  curvature : Fin f.outputSize → Fin f.inputSize → Fin f.inputSize → α
  checkArgument : f.checkArgument x = .ok point
  compute_ahead (j : Fin f.inputSize) :
    f.compute (.vector (ahead point ε j)) = .ok (List.ofFn (valueAhead j))
  compute_behind (j : Fin f.inputSize) :
    f.compute (.vector (behind point ε j)) = .ok (List.ofFn (valueBehind j))
  gradient (i : Fin f.outputSize) : f.gradient x (.whole i.val) = .ok (List.ofFn (slope i))
  gradient_ahead (h : f.supports .twiceDifferentiable = true) (j : Fin f.inputSize)
    (i : Fin f.outputSize) :
    f.gradient (.vector (ahead point ε j)) (.whole i.val) = .ok (List.ofFn (slopeAhead j i))
  gradient_behind (h : f.supports .twiceDifferentiable = true) (j : Fin f.inputSize)
    (i : Fin f.outputSize) :
    f.gradient (.vector (behind point ε j)) (.whole i.val) = .ok (List.ofFn (slopeBehind j i))
  hessian (h : f.supports .twiceDifferentiable = true) (i : Fin f.outputSize) :
    f.hessian x (.whole i.val) = .ok (.ofFn (curvature i))

variable {f : Function α} {x : Datum α} {ε : α}

theorem nonempty_samples (hfilled : f.ReturnsFilled) {point : List α}
    (hpoint : f.checkArgument x = .ok point)
    (hcompute : ∀ j : Fin f.inputSize, ∀ y ∈ [ahead point ε j, behind point ε j],
      ∃ values, f.compute (.vector y) = .ok values)
    (hgradient : ∀ i : Fin f.outputSize, ∃ slopes, f.gradient x (.whole i.val) = .ok slopes)
    (htwice : f.supports .twiceDifferentiable = true → ∀ i : Fin f.outputSize,
      (∃ H, f.hessian x (.whole i.val) = .ok H) ∧
        ∀ j : Fin f.inputSize, ∀ y ∈ [ahead point ε j, behind point ε j],
          ∃ slopes, f.gradient (.vector y) (.whole i.val) = .ok slopes) :
    Nonempty (f.Samples x ε) := by
  have : Nonempty α := ⟨0.0⟩
  have hvalues (j : Fin f.inputSize) (y : List α) (hy : y ∈ [ahead point ε j, behind point ε j]) :
      ∃ v : Fin f.outputSize → α, f.compute (.vector y) = .ok (List.ofFn v) := by
    obtain ⟨values, h⟩ := hcompute j y hy
    obtain ⟨v, rfl⟩ := Matrix.exists_eq_ofFn (length_of_compute h)
    exact ⟨v, h⟩
  have hslopes {y index : Datum α} (h : ∃ slopes, f.gradient y index = .ok slopes) :
      ∃ v : Fin f.inputSize → α, f.gradient y index = .ok (List.ofFn v) := by
    obtain ⟨slopes, h⟩ := h
    obtain ⟨v, rfl⟩ := Matrix.exists_eq_ofFn (length_of_gradient h)
    exact ⟨v, h⟩
  have hcurvatures (h : f.supports .twiceDifferentiable = true) (i : Fin f.outputSize) :
      ∃ A : Fin f.inputSize → Fin f.inputSize → α, f.hessian x (.whole i.val) = .ok (.ofFn A) := by
    obtain ⟨H, hH⟩ := (htwice h i).1
    obtain ⟨hwidth, hheight, hrows⟩ := size_of_hessian hH
    obtain ⟨A, rfl⟩ := Matrix.exists_ofFn hheight hwidth (hrows hfilled)
    exact ⟨A, hH⟩
  choose valueAhead hvalueAhead using fun j => hvalues j (ahead point ε j) (by simp)
  choose valueBehind hvalueBehind using fun j => hvalues j (behind point ε j) (by simp)
  choose slope hslope using fun i => hslopes (hgradient i)
  choose! slopeAhead hslopeAhead using fun h j i =>
    hslopes ((htwice h i).2 j (ahead point ε j) (by simp))
  choose! slopeBehind hslopeBehind using fun h j i =>
    hslopes ((htwice h i).2 j (behind point ε j) (by simp))
  choose! curvature hcurvature using hcurvatures
  exact ⟨⟨point, valueAhead, valueBehind, slope, slopeAhead, slopeBehind, curvature, hpoint,
    hvalueAhead, hvalueBehind, hslope, hslopeAhead, hslopeBehind, hcurvature⟩⟩

namespace Samples

variable (s : f.Samples x ε)

def slopeEstimate (i : Fin f.outputSize) (j : Fin f.inputSize) : α :=
  (s.valueAhead j i - s.valueBehind j i) / (2.0 * ε)

/-- The central difference of an entry of a gradient in a variable: the row is that of the entry,
and the column that of the variable. -/
def curvatureEstimate (i : Fin f.outputSize) (r j : Fin f.inputSize) : α :=
  (s.slopeAhead j i r - s.slopeBehind j i r) / (2.0 * ε)

def slopeError (i : Fin f.outputSize) : α :=
  discrepancy (List.ofFn (s.slope i)) (List.ofFn (s.slopeEstimate i))

def curvatureError (i : Fin f.outputSize) : α :=
  discrepancy (Matrix.ofFn (s.curvature i)).toTensor.entries
    (Matrix.ofFn (s.curvatureEstimate i)).toTensor.entries

def gradientCheck (tolerance : Datum α) (i : Fin f.outputSize) : DerivativeCheck α :=
  ⟨f.name, .whole i.val, s.slopeError i, tolerance, .vector (List.ofFn (s.slope i)),
    .vector (List.ofFn (s.slopeEstimate i))⟩

def hessianCheck (tolerance : Datum α) (i : Fin f.outputSize) : DerivativeCheck α :=
  ⟨f.name, .whole i.val, s.curvatureError i, tolerance, (Matrix.ofFn (s.curvature i)).toTensor,
    if f.inputSize = 0 then .vector [] else (Matrix.ofFn (s.curvatureEstimate i)).toTensor⟩

theorem length_point : s.point.length = f.inputSize :=
  (checkArgument_eq_ok_iff.1 s.checkArgument).2

theorem differenceGradient_eq (i : Fin f.outputSize) :
    differenceGradient f s.point (.whole i.val) (.number ε) =
      .ok (.vector (List.ofFn (s.slopeEstimate i))) := by
  have hentry (v : Fin f.outputSize → α) : (List.ofFn v)[i.val]? = some (v i) := by simp
  have hahead (j : Fin f.inputSize) := component_eq_ok (s.compute_ahead j) (hentry _)
  have hbehind (j : Fin f.inputSize) := component_eq_ok (s.compute_behind j) (hentry _)
  rw [differenceGradient, centralDifferences_eq_ok s.length_point hahead hbehind, ok_bind,
    ← Tensor.stack_number, List.map_ofFn]
  rfl

theorem differenceRows_eq (h : f.supports .twiceDifferentiable = true) (i : Fin f.outputSize) :
    differenceRows f s.point (.whole i.val) (.number ε) =
      .ok (Matrix.ofFn fun j r => s.curvatureEstimate i r j).rows := by
  have hquotients (j : Fin f.inputSize) : List.zipWith (quotient (2.0 * ε))
      (List.ofFn (s.slopeAhead j i)) (List.ofFn (s.slopeBehind j i)) =
        List.ofFn fun r => s.curvatureEstimate i r j := by
    refine List.ext_getElem (by simp) fun r hr hr' => ?_
    simp [quotient, curvatureEstimate]
  rw [differenceRows, centralDifferences_eq_ok s.length_point (fun j => s.gradient_ahead h j i)
    (fun j => s.gradient_behind h j i)]
  exact congrArg Except.ok (congrArg List.ofFn (funext hquotients))

variable (tolerance : Datum α)

theorem outcome_checkGradient (i : Fin f.outputSize) :
    (checkGradient f x (.whole i.val) (.number ε) tolerance).outcome =
      .ok (s.gradientCheck tolerance i) := by
  have hvector (v : Fin f.inputSize → α) :
      Tensor.vector (List.ofFn v) = ⟨[f.inputSize], List.ofFn v⟩ := by
    rw [Tensor.vector, List.length_ofFn]
  unfold checkGradient
  rw [Attempt.outcome_liftM_bind (s.gradient i), Attempt.outcome_liftM_bind s.checkArgument,
    Attempt.outcome_liftM_bind (s.differenceGradient_eq i)]
  refine DerivativeCheck.outcome_conclude ?_
  rw [hvector, hvector]
  exact relativeError_eq_ok _ (by simp)

theorem outcome_checkHessian (h : f.supports .twiceDifferentiable = true) (i : Fin f.outputSize) :
    (checkHessian f x (.whole i.val) (.number ε) tolerance).outcome =
      .ok (s.hessianCheck tolerance i) := by
  have htranspose : (Matrix.mk f.inputSize
      (Matrix.ofFn fun j r => s.curvatureEstimate i r j).rows).transpose =
        .ofFn (s.curvatureEstimate i) := Matrix.transpose_ofFn _
  have hempty : (Matrix.ofFn fun j r => s.curvatureEstimate i r j).rows.isEmpty = true ↔
      f.inputSize = 0 := by
    rw [List.isEmpty_iff_length_eq_zero]
    exact Eq.congr_left (Matrix.height_ofFn _)
  unfold checkHessian
  rw [Attempt.outcome_liftM_bind (s.hessian h i), Attempt.outcome_liftM_bind s.checkArgument,
    Attempt.outcome_liftM_bind (s.differenceRows_eq h i)]
  simp only [hempty, htranspose]
  refine DerivativeCheck.outcome_conclude ?_
  unfold curvatureError
  rw [Matrix.toTensor_ofFn, Matrix.toTensor_ofFn]
  split
  · next hn =>
      rw [List.finRange_eq_nil_iff.2 hn]
      exact relativeError_nil _ _
  · exact relativeError_eq_ok _ (by simp)

/-- All checks are made before the first one that does not pass is the error. -/
theorem outcome_assertGradient : (assertGradient f x (.number ε) tolerance).outcome =
    DerivativeCheck.demand (List.ofFn (s.gradientCheck tolerance) ++
      if f.supports .twiceDifferentiable then List.ofFn (s.hessianCheck tolerance) else []) := by
  have hall {check : Datum α → Attempt α (DerivativeCheck α)}
      {checks : Fin f.outputSize → DerivativeCheck α}
      (h : ∀ i : Fin f.outputSize, (check (.whole i.val)).outcome = .ok (checks i)) :
      Attempt.outcome (((List.range f.outputSize).map fun (i : Nat) =>
        (Datum.whole i : Datum α)).mapM check) = .ok (List.ofFn checks) := by
    rw [Attempt.outcome_mapM, List.mapM_map]
    exact mapM_range_eq_ok h
  unfold assertGradient
  rw [Attempt.outcome_bind, hall (s.outcome_checkGradient tolerance), ok_bind]
  by_cases htwice : f.supports .twiceDifferentiable = true
  · rw [if_pos htwice, if_pos htwice, Attempt.outcome_bind,
      hall (s.outcome_checkHessian tolerance htwice), ok_bind, Attempt.outcome_liftM]
  · rw [if_neg htwice, if_neg htwice, Attempt.outcome_bind, Attempt.outcome_pure, ok_bind,
      Attempt.outcome_liftM]

end Samples

end Function

namespace DerivativeCheck

variable {m : Nat} {checks : Fin m → DerivativeCheck α} {t : α}
  (ht : ∀ i, (checks i).tolerance.toReal = .ok t)

include ht

theorem passed_ofFn_iff : (∀ check ∈ List.ofFn checks, check.passed = .ok true) ↔
    ∀ i, atMost (checks i).maxError t = true := by
  rw [List.forall_mem_ofFn_iff]
  refine forall_congr' fun i => ?_
  rw [passed_eq_ok (ht i), Except.ok.injEq]

theorem demand_ofFn_of_failed {i : Fin m} (hbefore : ∀ k < i, atMost (checks k).maxError t = true)
    (hi : atMost (checks i).maxError t = false) (rest : List (DerivativeCheck α)) :
    demand (List.ofFn checks ++ rest) = .error (.badGradient (checks i).functionName.write
      (checks i).index (checks i).maxError t) := by
  have hpassed : ∀ check ∈ (List.ofFn checks).take i, check.passed = .ok true := by
    intro check hcheck
    obtain ⟨k, hk, rfl⟩ := List.mem_take_iff_getElem.1 hcheck
    rw [lt_min_iff, List.length_ofFn] at hk
    rw [List.getElem_ofFn, passed_eq_ok (ht _), hbefore ⟨k, hk.2⟩ hk.1]
  have hdrop : (List.ofFn checks).drop i = checks i :: (List.ofFn checks).drop (i + 1) := by
    rw [List.drop_eq_getElem_cons (by simp), List.getElem_ofFn]
  rw [← List.take_append_drop i (List.ofFn checks), List.append_assoc, demand_append hpassed, hdrop,
    List.cons_append, demand_cons_of_failed (ht i) hi]

end DerivativeCheck

namespace Function

open Exact

variable {f : Function Exact} {x : Datum Exact} {ε : Exact}

/-- The gradient of an output agrees with the differences of its values. -/
def Samples.GradientAgrees (s : f.Samples x ε) (t : Rat) (i : Fin f.outputSize) : Prop :=
  Agrees t (s.slope i) (s.slopeEstimate i)

/-- The Hessian of an output agrees with the differences of its gradients, entry by entry. -/
def Samples.HessianAgrees (s : f.Samples x ε) (t : Rat) (i : Fin f.outputSize) : Prop :=
  Agrees t (fun p : Fin f.inputSize × Fin f.inputSize => s.curvature i p.1 p.2)
    fun p => s.curvatureEstimate i p.1 p.2

section Agreeing

variable (s : f.Samples x ε) {t : Rat} (ht : 0 ≤ t)

include ht

theorem Samples.slopeError_atMost_iff (i : Fin f.outputSize) :
    atMost (s.slopeError i) (finite t) = true ↔ s.GradientAgrees t i := by
  unfold slopeError
  rw [List.ofFn_eq_map, List.ofFn_eq_map]
  exact discrepancy_atMost_iff_agrees List.mem_finRange ht _ _

theorem Samples.curvatureError_atMost_iff (i : Fin f.outputSize) :
    atMost (s.curvatureError i) (finite t) = true ↔ s.HessianAgrees t i := by
  have hall (p : Fin f.inputSize × Fin f.inputSize) :
      p ∈ List.finRange f.inputSize ×ˢ List.finRange f.inputSize :=
    List.mem_product.2 ⟨List.mem_finRange _, List.mem_finRange _⟩
  unfold curvatureError
  rw [Matrix.toTensor_ofFn, Matrix.toTensor_ofFn]
  exact discrepancy_atMost_iff_agrees hall ht _ _

end Agreeing

/-- Checked with a tolerance from zero on, a function passes exactly where all its gradients agree
with their estimates and, on the highest tier, all its Hessians. Else the error is the first
derivative that does not, of the gradients in order and then of the Hessians. -/
theorem assertGradient_eq_ok_iff_agrees (s : f.Samples x ε) {tolerance : Datum Exact} {t : Rat}
    (htolerance : tolerance.toReal = .ok (finite t)) (ht : 0 ≤ t) :
    ((assertGradient f x (.number ε) tolerance).outcome = .ok () ↔
      (∀ i, s.GradientAgrees t i) ∧
        (f.supports .twiceDifferentiable = true → ∀ i, s.HessianAgrees t i)) ∧
      (∀ i, (∀ k < i, s.GradientAgrees t k) → ¬s.GradientAgrees t i →
        (assertGradient f x (.number ε) tolerance).outcome =
          .error (.badGradient f.label (.whole i.val) (s.slopeError i) (finite t))) ∧
      (f.supports .twiceDifferentiable = true → (∀ i, s.GradientAgrees t i) →
        ∀ i, (∀ k < i, s.HessianAgrees t k) → ¬s.HessianAgrees t i →
          (assertGradient f x (.number ε) tolerance).outcome =
            .error (.badGradient f.label (.whole i.val) (s.curvatureError i) (finite t))) := by
  have hgradients : (∀ check ∈ List.ofFn (s.gradientCheck tolerance), check.passed = .ok true) ↔
      ∀ i, s.GradientAgrees t i := by
    rw [DerivativeCheck.passed_ofFn_iff fun _ => htolerance]
    exact forall_congr' (s.slopeError_atMost_iff ht)
  have hhessians : (∀ check ∈ List.ofFn (s.hessianCheck tolerance), check.passed = .ok true) ↔
      ∀ i, s.HessianAgrees t i := by
    rw [DerivativeCheck.passed_ofFn_iff fun _ => htolerance]
    exact forall_congr' (s.curvatureError_atMost_iff ht)
  rw [s.outcome_assertGradient tolerance]
  refine ⟨?_, fun i hbefore hi => ?_, fun htwice hall i hbefore hi => ?_⟩
  · rw [DerivativeCheck.demand_eq_ok_iff, List.forall_mem_append, hgradients]
    refine and_congr_right fun _ => ?_
    by_cases htwice : f.supports .twiceDifferentiable = true
    · rw [if_pos htwice, hhessians]
      exact ⟨fun h _ => h, fun h => h htwice⟩
    · rw [if_neg htwice]
      exact iff_of_true (List.forall_mem_nil _) fun h => absurd h htwice
  · refine DerivativeCheck.demand_ofFn_of_failed (fun _ => htolerance) (fun k hk => ?_) ?_ _
    · exact (s.slopeError_atMost_iff ht k).2 (hbefore k hk)
    · exact Bool.eq_false_iff.2 fun h => hi ((s.slopeError_atMost_iff ht i).1 h)
  · rw [DerivativeCheck.demand_append (hgradients.2 hall), if_pos htwice,
      ← List.append_nil (List.ofFn _)]
    refine DerivativeCheck.demand_ofFn_of_failed (fun _ => htolerance) (fun k hk => ?_) ?_ _
    · exact (s.curvatureError_atMost_iff ht k).2 (hbefore k hk)
    · exact Bool.eq_false_iff.2 fun h => hi ((s.curvatureError_atMost_iff ht i).1 h)

end Function

def squareSamples (v ε : Exact) : square.Samples (.vector [v]) ε where
  point := [v]
  valueAhead _ _ := (v + ε) * (v + ε)
  valueBehind _ _ := (v - ε) * (v - ε)
  slope _ _ := .finite 2 * v
  slopeAhead _ _ _ := .finite 2 * (v + ε)
  slopeBehind _ _ _ := .finite 2 * (v - ε)
  curvature _ _ _ := .finite 2
  checkArgument := rfl
  compute_ahead := Fin.forall_fin_one.2 rfl
  compute_behind := Fin.forall_fin_one.2 rfl
  gradient := Fin.forall_fin_one.2 rfl
  gradient_ahead _ := Fin.forall_fin_one.2 (Fin.forall_fin_one.2 rfl)
  gradient_behind _ := Fin.forall_fin_one.2 (Fin.forall_fin_one.2 rfl)
  hessian _ := Fin.forall_fin_one.2 rfl

/-- At three the derivatives of the square agree with their estimates entirely. At infinity its
slope is infinite and the estimate not a number, so that no tolerance lets it pass. -/
theorem Function.assertGradient_eq_ok_iff_agrees_square :
    (assertGradient square (.vector [.finite 3]) (.number (.finite 1))
      (.number (.finite 0))).outcome = .ok () ∧
    (assertGradient square (.vector [.infinity]) (.number (.finite 1))
      (.number (.finite 0))).outcome =
        .error (.badGradient "square" (.whole 0) .notANumber (.finite 0)) := by
  have htolerance : (Datum.number (Exact.finite 0)).toReal = .ok (.finite 0) := rfl
  constructor
  · have hslope : ∀ i j, (squareSamples (.finite 3) (.finite 1)).slope i j = .finite 6 ∧
        (squareSamples (.finite 3) (.finite 1)).slopeEstimate i j = .finite 6 := by decide +kernel
    have hcurvature : ∀ i r j, (squareSamples (.finite 3) (.finite 1)).curvature i r j = .finite 2 ∧
        (squareSamples (.finite 3) (.finite 1)).curvatureEstimate i r j = .finite 2 := by
      decide +kernel
    obtain ⟨hpasses, -⟩ := Function.assertGradient_eq_ok_iff_agrees
      (squareSamples (.finite 3) (.finite 1)) htolerance le_rfl
    refine hpasses.2 ⟨fun i => ?_, fun _ i => ?_⟩
    · exact ⟨fun _ => 6, fun _ => 6, fun j => (hslope i j).1, fun j => (hslope i j).2, by simp⟩
    · exact ⟨fun _ => 2, fun _ => 2, fun p => (hcurvature i p.1 p.2).1,
        fun p => (hcurvature i p.1 p.2).2, by simp⟩
  · have herror : (squareSamples .infinity (.finite 1)).slopeError ⟨0, Nat.one_pos⟩ =
        .notANumber := by decide +kernel
    obtain ⟨-, hfirst, -⟩ := Function.assertGradient_eq_ok_iff_agrees
      (squareSamples .infinity (.finite 1)) htolerance le_rfl
    rw [← herror]
    refine hfirst ⟨0, Nat.one_pos⟩ (fun k hk => absurd hk (Nat.not_lt_zero _)) fun h => ?_
    obtain ⟨q, hq⟩ := (Exact.isFinite_iff _).1 (h.isFinite ⟨0, Nat.one_pos⟩).1
    cases hq

end NonlinearProgram
