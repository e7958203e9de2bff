import NonlinearProgram.Proofs.Solver.Course
import NonlinearProgram.Proofs.Solver.Mirrors
import NonlinearProgram.Proofs.Solver.Sided

/-!
# Scales do not show in results

Minimisers are handed scaled constraints and scaled ends, an interior-point library is handed the
scales beside unscaled constraints, and the verdict is made on unscaled values. Over exact scalars a
positive factor moves nothing across zero and leaves infinities what they are, so the same
components are equalities and inequalities, the same weights are passed over, and a callback fails
where it would with other scales. A library that asks for the same and ends in the same way then
gets the same result.
-/

namespace NonlinearProgram

open Scalar

variable {α : Type} [Scalar α]

open Exact

def BothScales (s t : Exact) : Prop := Interval.isScale s = true ∧ Interval.isScale t = true

def ZeroTogether (a b : Exact) : Prop := equal a 0.0 = equal b 0.0

theorem equal_mul_scale {s : Exact} (hs : Interval.isScale s = true) (a : Exact) :
    equal (a * s) 0.0 = equal a 0.0 := by
  obtain ⟨hpos, hfin⟩ := Bool.and_eq_true_iff.1 hs
  obtain ⟨q, rfl, hq⟩ := eq_finite_of_isScale hpos hfin
  have hzero : (0.0 : Exact) * finite q = 0.0 := by rw [zero_eq, finite_mul_finite, zero_mul]
  calc equal (a * finite q) 0.0 = equal (a * finite q) (0.0 * finite q) := by rw [hzero]
    _ = equal a 0.0 := equal_mul_mul hq a 0.0

theorem zeroTogether_mul (a s t : Exact) (h : BothScales s t) : ZeroTogether (a * s) (a * t) :=
  (equal_mul_scale h.1 a).trans (equal_mul_scale h.2 a).symm

/-- Two stacks are the same but for their scales. -/
structure StackedConstraints.Rescaled (a b : StackedConstraints Exact) : Prop where
  constraints : List.Forall₂ Constraint.Rescaled a.constraints b.constraints
  scales : List.Forall₂ BothScales a.scales b.scales

namespace Constraint

variable {x : Datum Exact} {weightOf weightOf' : Nat → Except (Error Exact) (Tensor Exact)}

/-- A Hessian is asked for with either weight or with neither, and fits either sum or neither. -/
theorem addHessian_failsLike
    (h : ∀ k, InStep (Tensor.Matches ZeroTogether) (weightOf k) (weightOf' k))
    (total total' : Matrix Exact) (component : (Function Exact × Nat) × Nat) :
    FailsLike (addHessian (hessianOf x) weightOf total component)
      (addHessian (hessianOf x) weightOf' total' component) := by
  unfold addHessian
  simp only [ofExcept_eq]
  refine (h component.2).bind fun w w' hw => (Tensor.single_inStep hw).bind fun a b hab => ?_
  rw [show equal a 0.0 = equal b 0.0 from hab]
  by_cases hzero : equal b 0.0 = true
  · rw [if_pos hzero, if_pos hzero]
    exact .ok trivial
  · rw [if_neg hzero, if_neg hzero]
    refine .after _ fun m => ?_
    unfold weighted
    rw [hw.shape]
    by_cases hgrown : 2 < w'.shape.length
    · rw [if_pos hgrown, if_pos hgrown]
      exact .error _
    · rw [if_neg hgrown, if_neg hgrown]
      exact .ok trivial

end Constraint

namespace StackedConstraints.Rescaled

variable {a b : StackedConstraints Exact} (h : a.Rescaled b)

include h

omit h in
theorem pairUp_failsLike {β γ δ : Type} {f g : β → γ → δ} {xs ys : List β}
    (h : xs.length = ys.length) (zs : List γ) :
    FailsLike (Tensor.pairUp f xs zs : Except (Error Exact) _) (Tensor.pairUp g ys zs) := by
  unfold Tensor.pairUp
  rw [h]
  split
  · exact .ok trivial
  · exact .error _

theorem values (x : Datum Exact) : FailsLike (a.values x) (b.values x) := by
  unfold StackedConstraints.values
  rw [Constraint.isEmpty_eq_of_rescaled h.constraints,
    Constraint.stackedValues_eq_of_rescaled h.constraints]
  by_cases hempty : b.constraints.isEmpty = true
  · rw [if_pos hempty, if_pos hempty]
    exact .ok trivial
  · rw [if_neg hempty, if_neg hempty]
    exact .after _ fun values => pairUp_failsLike h.scales.length_eq values

theorem jacobian (x : Datum Exact) : FailsLike (a.jacobian x) (b.jacobian x) := by
  unfold StackedConstraints.jacobian
  rw [Constraint.isEmpty_eq_of_rescaled h.constraints,
    Constraint.stackedJacobian_eq_of_rescaled h.constraints]
  refine .after _ fun m => ?_
  by_cases hempty : b.constraints.isEmpty = true
  · rw [if_pos hempty, if_pos hempty]
    exact .ok trivial
  · rw [if_neg hempty, if_neg hempty]
    exact (pairUp_failsLike h.scales.length_eq m.rows).bind fun _ _ _ => .ok trivial

theorem hessian (x : Datum Exact) (weights : Tensor Exact) :
    FailsLike (a.hessian x weights) (b.hessian x weights) := by
  unfold StackedConstraints.hessian Constraint.scaledHessian
  rw [Constraint.stackedHessian_eq_foldlM, Constraint.stackedHessian_eq_foldlM,
    Constraint.components_eq_of_rescaled h.constraints]
  refine .after _ fun n => InStep.foldlM (fun total total' component _ => ?_) _ trivial
  refine Constraint.addHessian_failsLike (fun k => ?_) total total' component
  exact .after _ fun weight => (Tensor.partAt_vector_inStep h.scales k).bind fun _ _ hscale =>
    Tensor.broadcast_inStep zeroTogether_mul weight hscale

end StackedConstraints.Rescaled

/-- Two intervals have the same ends to respect: both or neither have a single number in them, and
an end of one is finite where that of the other is. -/
structure Interval.SameSides (i j : Interval α) : Prop where
  isEquality : i.isEquality = j.isEquality
  isFinite_lower : isFinite i.lower = isFinite j.lower
  isFinite_upper : isFinite i.upper = isFinite j.upper

theorem Interval.isScale_of_scaled {i j : Interval α} {s : α} (h : i.scaled s = .ok j) :
    isScale s = true := by
  unfold scaled at h
  by_cases hs : isScale s = true
  · exact hs
  · rw [if_neg hs] at h
    cases h

theorem Interval.sameSides_of_scaled {i j : Interval Exact} {s : Exact} (h : i.scaled s = .ok j) :
    i.SameSides j := by
  obtain ⟨hpos, hfin⟩ := Bool.and_eq_true_iff.1 (isScale_of_scaled h)
  obtain ⟨q, rfl, hq⟩ := eq_finite_of_isScale hpos hfin
  have hends : (Component.mk i q hq 0).HasScaledEnds j := Interval.ends_of_scaled h
  exact ⟨hends.isEquality.symm, hends.isFinite_lower.symm, hends.isFinite_upper.symm⟩

theorem Sides.ofBounds_eq (split : Bool) {bounds bounds' : List (Interval α)}
    (h : List.Forall₂ Interval.SameSides bounds bounds') :
    ofBounds split bounds = ofBounds split bounds' := by
  have hequal : positionsOf Interval.isEquality bounds =
      positionsOf Interval.isEquality bounds' :=
    positionsOf_congr (h.imp fun _ _ h => h.isEquality)
  have hlower : positionsOf (fun i => (split || !i.isEquality) && isFinite i.lower) bounds =
      positionsOf (fun i => (split || !i.isEquality) && isFinite i.lower) bounds' :=
    positionsOf_congr (h.imp fun _ _ h => by rw [h.isEquality, h.isFinite_lower])
  have hupper : positionsOf (fun i => (split || !i.isEquality) && isFinite i.upper) bounds =
      positionsOf (fun i => (split || !i.isEquality) && isFinite i.upper) bounds' :=
    positionsOf_congr (h.imp fun _ _ h => by rw [h.isEquality, h.isFinite_upper])
  rw [ofBounds, ofBounds, hequal, hlower, hupper]

omit [Scalar α] in
theorem sidedBlock_mirrors {sense sense' : Sense α}
    {value value' : Datum α → Except (Error α) (List α)}
    {jacobian jacobian' : Datum α → Except (Error α) (Matrix α)} (withJacobian : Bool)
    (hvalue : ∀ x, FailsLike (value x) (value' x))
    (hjacobian : ∀ x, FailsLike (jacobian x) (jacobian' x)) :
    ConstraintBlock.Mirrors
      ⟨sense, value, if withJacobian then some jacobian else none, none⟩
      ⟨sense', value', if withJacobian then some jacobian' else none, none⟩ := by
  refine ⟨hvalue, ?_, .none⟩
  cases withJacobian with
  | false => exact .none
  | true => exact .some hjacobian

namespace Sides

variable {a b : StackedConstraints Exact} (h : a.Rescaled b) (sides : Sides)
  (bounds bounds' : List (Interval Exact)) (withJacobian : Bool)

include h

theorem equalityBlock?_mirrors :
    Option.Rel ConstraintBlock.Mirrors (sides.equalityBlock? a bounds withJacobian)
      (sides.equalityBlock? b bounds' withJacobian) := by
  unfold equalityBlock?
  by_cases hnone : sides.equal.isEmpty = true
  · rw [if_pos hnone, if_pos hnone]
    exact .none
  · rw [if_neg hnone, if_neg hnone]
    refine .some (sidedBlock_mirrors withJacobian (fun x => ?_) fun x => ?_)
    · exact (h.values x).bind fun _ _ _ => .ok trivial
    · exact (h.jacobian x).bind fun _ _ _ => .ok trivial

theorem inequalityBlock?_mirrors :
    Option.Rel ConstraintBlock.Mirrors (sides.inequalityBlock? a bounds withJacobian)
      (sides.inequalityBlock? b bounds' withJacobian) := by
  unfold inequalityBlock?
  by_cases hnone : (sides.lower.isEmpty && sides.upper.isEmpty) = true
  · rw [if_pos hnone, if_pos hnone]
    exact .none
  · rw [if_neg hnone, if_neg hnone]
    refine .some (sidedBlock_mirrors withJacobian (fun x => ?_) fun x => ?_)
    · exact (h.values x).bind fun _ _ _ => .ok trivial
    · exact (h.jacobian x).bind fun _ _ _ => .ok trivial

end Sides

namespace Problem

variable {p q : Problem Exact}

theorem WellFormed.sameSides (hp : p.WellFormed) :
    ∃ bounds, p.scaledBounds = .ok bounds ∧
      List.Forall₂ Interval.SameSides p.componentBounds bounds := by
  obtain ⟨bounds, hbounds, hscaled⟩ := hp.exists_scaledBounds
  have hlength : p.componentBounds.length = p.componentScales.length := by
    rw [hp.numbered_bounds.length_eq, hp.numbered_scales.length_eq]
  refine ⟨bounds, hbounds, ?_⟩
  rw [← List.map_fst_zip hlength.le, List.forall₂_map_left_iff]
  exact hscaled.imp fun _ _ hb => Interval.sameSides_of_scaled hb

namespace Rescaled

variable (h : p.Rescaled q) (hp : p.WellFormed) (hq : q.WellFormed)

include h hp hq

theorem stacked : p.stacked.Rescaled q.stacked where
  constraints := h.constraints
  scales := by
    rw [List.forall₂_iff_zip]
    refine ⟨?_, fun hmem => ?_⟩
    · have hlength := h.componentCount_eq
      rwa [← hp.numbered_scales.length_eq, ← hq.numbered_scales.length_eq] at hlength
    · obtain ⟨hs, ht⟩ := List.of_mem_zip hmem
      exact ⟨hp.isScale_of_mem hs, hq.isScale_of_mem ht⟩

theorem sidedBlocks (withJacobian split : Bool) :
    InStep (List.Forall₂ ConstraintBlock.Mirrors) (p.sidedBlocks withJacobian split)
      (q.sidedBlocks withJacobian split) := by
  obtain ⟨bounds, hbounds, hsides⟩ := hp.sameSides
  obtain ⟨bounds', hbounds', hsides'⟩ := hq.sameSides
  have hstacked := h.stacked hp hq
  have heq : Sides.ofBounds split bounds = Sides.ofBounds split bounds' := by
    rw [← Sides.ofBounds_eq split hsides, ← Sides.ofBounds_eq split hsides', h.componentBounds_eq]
  unfold Problem.sidedBlocks
  rw [hbounds, hbounds', ok_bind, ok_bind, heq]
  refine .ok (List.rel_append ?_ ?_)
  · exact rel_toList (Sides.equalityBlock?_mirrors hstacked _ _ _ _)
  · exact rel_toList (Sides.inequalityBlock?_mirrors hstacked _ _ _ _)

theorem boundedBlocks :
    InStep (List.Forall₂ ConstraintBlock.Mirrors) p.boundedBlocks q.boundedBlocks := by
  obtain ⟨bounds, hbounds, -⟩ := hp.sameSides
  obtain ⟨bounds', hbounds', -⟩ := hq.sameSides
  have hstacked := h.stacked hp hq
  unfold Problem.boundedBlocks
  rw [Constraint.isEmpty_eq_of_rescaled h.constraints, hbounds, hbounds']
  by_cases hempty : q.constraints.isEmpty = true
  · rw [if_pos hempty, if_pos hempty]
    exact .ok .nil
  · rw [if_neg hempty, if_neg hempty]
    exact .ok (.cons ⟨hstacked.values, .some hstacked.jacobian, .some hstacked.hessian⟩ .nil)

end Rescaled

end Problem

namespace Solver.Rescaled

theorem interiorModel_eq {s t : Solver α} (h : s.Rescaled t) (exact : Bool) :
    s.interiorModel exact = { t.interiorModel exact with
      scaling := scalingFactors s.problem
      options := s.interiorOptions exact } := by
  simp only [interiorModel, h.problem.objective, h.problem.argumentBounds, h.problem.inputSize_eq,
    h.problem.componentCount_eq, h.problem.componentBounds_eq, h.problem.initialPoint_eq,
    h.problem.stackedUnscaled_values_eq, h.problem.jacobianEntries_eq,
    h.problem.lagrangianEntries_eq]

theorem snd_serve_interiorModel {s t : Solver α} (h : s.Rescaled t) (exact : Bool)
    (request : Request α) :
    ((s.interiorModel exact).serve request).2 = ((t.interiorModel exact).serve request).2 := by
  rw [h.interiorModel_eq]
  cases request with
  | iteration number => rw [InteriorModel.snd_serve_iteration, InteriorModel.snd_serve_iteration]
  | _ => rfl

variable {s t : Solver Exact} (h : s.Rescaled t) (hs : s.problem.WellFormed)
  (ht : t.problem.WellFormed)

include h hs ht

theorem minimizerModel (method : Method) :
    InStep MinimizerModel.Mirrors (s.minimizerModel method) (t.minimizerModel method) := by
  have hobjective := h.problem.objective
  cases method with
  | trustConstr =>
      refine (h.problem.boundedBlocks hs ht).bind fun as bs hblocks => .ok ?_
      exact ⟨by rw [hobjective], by rw [hobjective], by rw [hobjective], hblocks⟩
  | cobyla =>
      refine (h.problem.sidedBlocks hs ht false true).bind fun as bs hblocks => .ok ?_
      exact ⟨by rw [hobjective], rfl, rfl, hblocks⟩
  | _ =>
      refine (h.problem.sidedBlocks hs ht true false).bind fun as bs hblocks => .ok ?_
      exact ⟨by rw [hobjective], by rw [hobjective], rfl, hblocks⟩

/-- The same is handed over to the library but for scales, and no callback tells them apart by
failing. -/
theorem handover (method : Method) :
    InStep Handover.Mirrors (s.handover method) (t.handover method) := by
  have hminimizer := (h.minimizerModel hs ht method).bind (S := Handover.Mirrors)
    (f := fun m => .ok (.minimizer m)) (g := fun m => .ok (.minimizer m))
    fun m n hmn => .ok (.minimizer hmn.answer)
  have hinterior : ∀ exact, Handover.Mirrors (.interior (s.interiorModel exact))
      (.interior (t.interiorModel exact)) := fun exact =>
    .interior fun request => (InStep.of_eq (h.snd_serve_interiorModel exact request)).failsLike
  cases method with
  | slsqp | trustConstr | cobyla => exact hminimizer
  | ipopt | ipoptExact => exact .ok (hinterior _)

end Solver.Rescaled

namespace Solver

variable {s t : Solver Exact} {method : Method} {around : Surroundings Exact}

theorem Rescaled.course_eq_of_script (h : s.Rescaled t) (hs : s.problem.WellFormed)
    (ht : t.problem.WellFormed) (hmethod : s.backend.identity = .builtIn method)
    {requests requests' : List (Request Exact)}
    {ending : Except (Error Exact) (MinimizerOutcome Exact)}
    {ending' : Except (Error Exact) (InteriorOutcome Exact)}
    (hminimizer : around.minimizer = .script requests ending)
    (hinterior : around.interior = .script requests' ending') :
    s.course around method = t.course around method := by
  cases himport : around.imports method.library with
  | error e => rw [course_of_import_error himport, course_of_import_error himport]
  | ok _ =>
      obtain ⟨handover, hhandover⟩ := exists_handover hs method
      obtain ⟨handover', hhandover'⟩ := exists_handover ht method
      have hmirrors := h.handover hs ht method
      rw [hhandover, hhandover'] at hmirrors
      rw [course_of_handover hmethod himport hhandover,
        course_of_handover (h.backend ▸ hmethod) himport hhandover']
      cases hmirrors with
      | ok hmirrors =>
          cases hmirrors with
          | minimizer hanswer =>
              obtain ⟨hrequests, hending⟩ := Conduct.run_script MinimizerModel.steady
                MinimizerModel.steady requests ending hanswer
              simp only [Surroundings.transcript, Surroundings.ending, hminimizer, hrequests,
                hending]
          | interior hanswer =>
              obtain ⟨hrequests, hending⟩ := Conduct.run_script InteriorModel.steady
                InteriorModel.steady requests' ending' hanswer
              simp only [Surroundings.transcript, Surroundings.ending, hinterior, hrequests,
                hending]

/-- The same options are settled for a problem with other scales, or it is refused as well. -/
theorem bind_inStep {p q : Problem α} (h : p.Rescaled q) (b : Backend α)
    (explicit : Options α) (priority : Option (Datum α)) :
    InStep (fun s t => s.parameters = t.parameters) (bind b p explicit priority).outcome
      (bind b q explicit priority).outcome := by
  rw [outcome_bind, outcome_bind, h.checkProblem_eq]
  exact .after _ fun _ => .after _ fun preset => .ok rfl

/-- Two problems that differ in their scales, whatever these are, have the same constraint values,
the same violation and the same feasible points, and are bound or refused alike. What a built-in
backend hands over for them fails alike, callback by callback. A run on one and a run on the other,
with the same options, have the same result and report the same where the library calls the same
callbacks at the same points and ends in the same way. -/
theorem run_eq_of_rescaled {p q : Problem Exact} (hp : p.Reachable) (hq : q.Reachable)
    (h : p.Rescaled q) :
    (∀ x, p.constraintValues x = q.constraintValues x ∧
      p.constraintViolation x = q.constraintViolation x ∧
      (∀ tolerance, p.isFeasible x tolerance = q.isFeasible x tolerance) ∧
      ∀ tolerance, p.isFeasibleWithin x tolerance = q.isFeasibleWithin x tolerance) ∧
    ∀ method : Method,
      (∀ explicit priority, InStep (fun s t => s.parameters = t.parameters)
        (bind method.backend p explicit priority).outcome
        (bind method.backend q explicit priority).outcome) ∧
      ∀ {explicit explicit' priority priority' s t},
        (bind method.backend p explicit priority).outcome = .ok s →
        (bind method.backend q explicit' priority').outcome = .ok t →
        s.parameters = t.parameters →
        InStep Handover.Mirrors (s.handover method) (t.handover method) ∧
        ∀ around around', s.course around method = t.course around' method →
          (s.run around).2.value.2 = (t.run around').2.value.2 ∧
          (s.run around).2.records = (t.run around').2.records := by
  refine ⟨fun x => ⟨h.constraintValues_eq x, h.constraintViolation_eq x, h.isFeasible_eq x,
    h.isFeasibleWithin_eq x⟩, fun method => ⟨bind_inStep h _, ?_⟩⟩
  intro explicit explicit' priority priority' s t hs ht hparameters
  obtain ⟨hbackend, hproblem⟩ := bind_eq_ok hs
  obtain ⟨hbackend', hproblem'⟩ := bind_eq_ok ht
  have hrescaled : s.Rescaled t := by
    refine ⟨hbackend.trans hbackend'.symm, hparameters, ?_⟩
    rw [hproblem, hproblem']
    exact { h with }
  have hwf := wellFormed_of_bind hp hs
  have hwf' := wellFormed_of_bind hq ht
  refine ⟨hrescaled.handover hwf hwf' method, fun around around' hcourse => ?_⟩
  exact hrescaled.run_eq hwf hwf' (identity_of_bind hs) hcourse

def evenlyBoxed : Problem Exact :=
  { boxed with constraints := [⟨copies, boxedBounds, [.finite 1, .finite 1]⟩] }

theorem boxed_sideBySide : boxed.SideBySide evenlyBoxed := by
  have hcreate : Problem.create coordinate (some (.texts ["u"])) =
      .ok { boxed with constraints := [] } := rfl
  refine .step (.create hcreate hcreate) (.constraint copies
    (.several (boxedBounds.map .interval)) (some (.vector [.finite 2, .finite 3])) none) ?_ ?_
  · with_unfolding_all rfl
  · with_unfolding_all rfl

/-- Surroundings in which a minimiser asks for the value and for the constraints at three, and stops
there. -/
def visiting : Surroundings Exact where
  imports := .only ["scipy"]
  minimizer := .script [.value (.vector [.finite 3]),
      .blockValue (.whole 0) (.vector [.finite 3])] (.ok {
    point := .vector [.finite 3]
    success := .ok (.flag true)
    message := .ok (.text "done")
    iterations := some (.whole 1)
    status := .ok (.whole 0) })
  interior := .script [] (.error .problemFrozen)
  procedure := fun _ => throw .problemFrozen

def sequentialSolver (p : Problem Exact) : Solver Exact where
  backend := Method.slsqp.backend
  problem := p.freeze
  parameters := mergeOptions Method.slsqp.backend [] []

def visitedSolution : Solution Exact where
  point := some (.vector [.finite 3])
  value := .finite 3
  constraintValues := some (.vector [.finite 3, .finite 3])
  iterations := .whole 1
  functionEvals := .whole 1
  gradientEvals := .whole 0

theorem run_eq_of_rescaled_boxed :
    boxed.SideBySide evenlyBoxed ∧
    (bind Method.slsqp.backend boxed [] none).outcome = .ok (sequentialSolver boxed) ∧
    (bind Method.slsqp.backend evenlyBoxed [] none).outcome =
      .ok (sequentialSolver evenlyBoxed) ∧
    boxed.stacked.values (.vector [.finite 3]) = .ok [.finite 6, .finite 9] ∧
    evenlyBoxed.stacked.values (.vector [.finite 3]) = .ok [.finite 3, .finite 3] ∧
    (sequentialSolver boxed).course visiting .slsqp =
      (sequentialSolver evenlyBoxed).course visiting .slsqp ∧
    ((sequentialSolver boxed).run visiting).2.value.2 = .solved visitedSolution ∧
    ((sequentialSolver evenlyBoxed).run visiting).2.value.2 = .solved visitedSolution := by
  obtain ⟨hp, hq⟩ := boxed_sideBySide.reachable
  have hs : (bind Method.slsqp.backend boxed [] none).outcome =
      .ok (sequentialSolver boxed) := by with_unfolding_all rfl
  have ht : (bind Method.slsqp.backend evenlyBoxed [] none).outcome =
      .ok (sequentialSolver evenlyBoxed) := by with_unfolding_all rfl
  have hrescaled : (sequentialSolver boxed).Rescaled (sequentialSolver evenlyBoxed) :=
    ⟨rfl, rfl, { boxed_sideBySide.rescaled with }⟩
  have hcourse : (sequentialSolver boxed).course visiting .slsqp =
      (sequentialSolver evenlyBoxed).course visiting .slsqp :=
    hrescaled.course_eq_of_script (wellFormed_of_bind hp hs) (wellFormed_of_bind hq ht)
      (identity_of_bind hs) rfl rfl
  have hresult : ((sequentialSolver boxed).run visiting).2.value.2 = .solved visitedSolution := by
    with_unfolding_all rfl
  obtain ⟨-, hmethods⟩ := run_eq_of_rescaled hp hq boxed_sideBySide.rescaled
  obtain ⟨-, hruns⟩ := (hmethods .slsqp).2 hs ht rfl
  refine ⟨boxed_sideBySide, hs, ht, ?_, ?_, hcourse, hresult, ?_⟩
  · with_unfolding_all rfl
  · with_unfolding_all rfl
  · rw [← (hruns visiting visiting hcourse).1, hresult]

end Solver

end NonlinearProgram
