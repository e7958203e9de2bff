import NonlinearProgram.Proofs.Attempt
import NonlinearProgram.Proofs.Problem.Violation
import NonlinearProgram.Proofs.Scalar.Exact
import NonlinearProgram.Proofs.Solver.Service

/-!
# Successes are certified

A success of a built-in backend comes from the verdict on a final point, so its point, value and
constraint values are finite and are what the problem gives there. The verdict refuses a violation
above the tolerance, and a feasible point is one whose violation is at most the tolerance. The two
differ in one case: a tolerance that is not a number refuses nothing, and nothing is at most it.
-/

namespace NonlinearProgram

open Scalar

variable {α : Type} [Scalar α]

/-- A solution has a finite point, at which the problem has its value and its constraint values,
and these are finite as well. -/
structure Solution.CertifiedAt (sol : Solution α) (p : Problem α) (xs values : List α) : Prop where
  point : sol.point = some (.vector xs)
  length_point : xs.length = p.inputSize
  isFinite_point : ∀ v ∈ xs, isFinite v = true
  value : ∃ outputs, p.objective.compute (.vector xs) = .ok outputs ∧ outputs[0]? = some sol.value
  isFinite_value : isFinite sol.value = true
  constraintValues : sol.constraintValues = some (.vector values)
  constraintValues_eq : p.constraintValues (.vector xs) = .ok values
  isFinite_constraintValues : ∀ v ∈ values, isFinite v = true

namespace Solver

/-- A result is certified where it is a success: finite throughout, and feasible unless the
tolerance is not a number. -/
def Certifies (s : Solver α) (r : Result α) : Prop :=
  ∀ sol, r.solution? = some sol → ∃ xs values tolerance,
    sol.CertifiedAt s.problem xs values ∧ s.feasibilityTolerance = .ok tolerance ∧
      s.problem.isFeasible (.vector xs) tolerance = .ok (!isNaN tolerance)

variable {s : Solver α}

theorem certifies_of_solution?_eq_none {r : Result α} (h : r.solution? = none) :
    s.Certifies r := by
  intro sol hsol
  rw [h] at hsol
  cases hsol

omit [Scalar α] in
theorem getElem?_of_entryAt {xs : List α} {k : Nat} {x : α} (h : Tensor.entryAt xs k = .ok x) :
    xs[k]? = some x := by
  unfold Tensor.entryAt at h
  cases hk : xs[k]? with
  | none => simp [hk] at h
  | some y =>
      simp only [hk] at h
      cases h
      rfl

theorem solution?_of_accept {solution : Except (Error α) (Solution α)} {report : RunReport α}
    {r : Result α} (h : (s.accept solution report).outcome = .ok r) :
    ∃ sol, solution = .ok sol ∧ r.solution? = some sol := by
  obtain ⟨warnings, -, h⟩ := Attempt.outcome_bind_eq_ok_iff.1 h
  by_cases hempty : warnings.isEmpty = true
  · rw [if_pos hempty] at h
    obtain ⟨sol, hsol, h⟩ := Attempt.outcome_bind_eq_ok_iff.1 h
    cases h
    exact ⟨sol, hsol, rfl⟩
  · rw [if_neg hempty] at h
    obtain ⟨-, -, h⟩ := Attempt.outcome_bind_eq_ok_iff.1 h
    obtain ⟨sol, hsol, h⟩ := Attempt.outcome_bind_eq_ok_iff.1 h
    cases h
    exact ⟨sol, hsol, rfl⟩

omit [Scalar α] in
theorem solution?_of_failure {text : String} {r : Result α}
    (h : (pure (failure text) : Attempt α (Result α)).outcome = .ok r) : r.solution? = none := by
  cases h
  rfl

/-- What the verdict finds at a point that passes its checks for what is finite. -/
structure Checked (s : Solver α) (x : Datum α) (t : Tensor α) (value : α) (values : List α)
    (violation tolerance : α) : Prop where
  point_eq : Tensor.ofDatum x = .ok t
  isFinite_point : t.entries.all isFinite = true
  value_eq : s.problem.objective.scalarValue x = .ok value
  isFinite_value : isFinite value = true
  constraintValues_eq : s.problem.constraintValues x = .ok values
  isFinite_constraintValues : values.all isFinite = true
  violation_eq : s.problem.constraintViolation x = .ok violation
  tolerance_eq : s.feasibilityTolerance = .ok tolerance

/-- The result of a point that passes the checks: no solution where the violation is above the
tolerance, and else what accepting it comes to. -/
def Decides (s : Solver α) (t : Tensor α) (value : α) (values : List α) (violation tolerance : α)
    (report : RunReport α) (r : Result α) : Prop :=
  less tolerance violation = true ∧
      r = .noSolution (.text (infeasibleReason report.message.write violation tolerance)) ∨
    less tolerance violation = false ∧
      (s.accept (solutionOf t value values report) report).outcome = .ok r

omit [Scalar α] in
/-- A check of the verdict either ends the run with a failure or has been passed. -/
theorem failed_or_of_check {failing : Bool} {text : String} {rest : Attempt α (Result α)}
    {r : Result α} (h : (if failing = true then pure (failure text) else rest).outcome = .ok r) :
    (∃ text, r = failure text) ∨ failing = false ∧ rest.outcome = .ok r := by
  cases failing with
  | true =>
      cases h
      exact .inl ⟨text, rfl⟩
  | false => exact .inr ⟨rfl, h⟩

omit [Scalar α] in
theorem outcome_of_check {failing : Bool} {ending rest : Attempt α (Result α)} {r : Result α}
    (hpassed : failing = false) (h : rest.outcome = .ok r) :
    (if failing = true then ending else rest).outcome = .ok r := by
  rw [hpassed]
  exact h

theorem failed_or_checked_of_conclude {x : Datum α} {report : RunReport α} {r : Result α}
    (h : (s.conclude x report).outcome = .ok r) :
    (∃ text, r = failure text) ∨ ∃ t value values violation tolerance,
      s.Checked x t value values violation tolerance ∧
        s.Decides t value values violation tolerance report r := by
  obtain ⟨t, ht, h⟩ := Attempt.outcome_bind_eq_ok_iff.1 h
  rcases failed_or_of_check h with h | ⟨hpoint, h⟩
  · exact .inl h
  obtain ⟨value, hvalue, h⟩ := Attempt.outcome_bind_eq_ok_iff.1 h
  rcases failed_or_of_check h with h | ⟨hfin, h⟩
  · exact .inl h
  obtain ⟨values, hvalues, h⟩ := Attempt.outcome_bind_eq_ok_iff.1 h
  rcases failed_or_of_check h with h | ⟨hvfin, h⟩
  · exact .inl h
  obtain ⟨violation, hviolation, h⟩ := Attempt.outcome_bind_eq_ok_iff.1 h
  obtain ⟨tolerance, htolerance, h⟩ := Attempt.outcome_bind_eq_ok_iff.1 h
  rw [Bool.not_eq_false'] at hpoint hfin hvfin
  refine .inr ⟨t, value, values, violation, tolerance,
    ⟨ht, hpoint, hvalue, hfin, hvalues, hvfin, hviolation, htolerance⟩, ?_⟩
  cases hexceeds : less tolerance violation with
  | true =>
      rw [if_pos hexceeds] at h
      cases h
      exact .inl ⟨hexceeds, rfl⟩
  | false =>
      rw [if_neg (by rw [hexceeds]; exact Bool.false_ne_true)] at h
      exact .inr ⟨hexceeds, h⟩

namespace Checked

variable {x : Datum α} {t : Tensor α} {value violation tolerance : α} {values : List α}
  {report : RunReport α} {r : Result α}
  (h : s.Checked x t value values violation tolerance)

include h

theorem outcome_conclude (hr : s.Decides t value values violation tolerance report r) :
    (s.conclude x report).outcome = .ok r := by
  refine Attempt.outcome_bind_eq_ok_iff.2 ⟨t, h.point_eq, ?_⟩
  refine outcome_of_check ((Bool.not_eq_false' _).mpr h.isFinite_point) ?_
  refine Attempt.outcome_bind_eq_ok_iff.2 ⟨value, h.value_eq, ?_⟩
  refine outcome_of_check ((Bool.not_eq_false' _).mpr h.isFinite_value) ?_
  refine Attempt.outcome_bind_eq_ok_iff.2 ⟨values, h.constraintValues_eq, ?_⟩
  refine outcome_of_check ((Bool.not_eq_false' _).mpr h.isFinite_constraintValues) ?_
  refine Attempt.outcome_bind_eq_ok_iff.2 ⟨violation, h.violation_eq, ?_⟩
  refine Attempt.outcome_bind_eq_ok_iff.2 ⟨tolerance, h.tolerance_eq, ?_⟩
  rcases hr with ⟨hexceeds, rfl⟩ | ⟨hwithin, hr⟩
  · rw [if_pos hexceeds]
    rfl
  · exact outcome_of_check hwithin hr

/-- The point of a solution that is made after the checks, and what they have found there. -/
theorem certifiedAt {sol : Solution α} (hsol : solutionOf t value values report = .ok sol) :
    Tensor.ofDatum x = .ok (.vector t.entries) ∧
      sol.CertifiedAt s.problem t.entries values := by
  obtain ⟨outputs, houtputs, hentry⟩ := bind_eq_ok_iff.1 h.value_eq
  obtain ⟨xs, hxs⟩ := Function.checkArgument_of_compute houtputs
  obtain ⟨hx, hlength⟩ := Function.checkArgument_eq_ok_iff.1 hxs
  have htensor : t = .vector xs := by
    have ht := h.point_eq
    rw [hx, Except.ok.injEq] at ht
    exact ht.symm
  subst htensor
  have hcongr : Tensor.ofDatum x = Tensor.ofDatum (.vector xs) := by
    rw [hx, Tensor.ofDatum_vector]
  obtain ⟨multipliers, -, hsol⟩ := bind_eq_ok_iff.1 hsol
  rw [pure_eq_ok_iff] at hsol
  subst hsol
  refine ⟨hx, ?_⟩
  exact {
    point := rfl
    length_point := hlength
    isFinite_point := List.all_eq_true.1 h.isFinite_point
    value := ⟨outputs, Function.compute_congr hcongr ▸ houtputs, getElem?_of_entryAt hentry⟩
    isFinite_value := h.isFinite_value
    constraintValues := rfl
    constraintValues_eq := Problem.constraintValues_congr hcongr ▸ h.constraintValues_eq
    isFinite_constraintValues := List.all_eq_true.1 h.isFinite_constraintValues }

end Checked

theorem certifies_of_conclude [LawfulScalar α] {x : Datum α} {report : RunReport α} {r : Result α}
    (h : (s.conclude x report).outcome = .ok r) : s.Certifies r := by
  rcases failed_or_checked_of_conclude h with
    ⟨text, rfl⟩ | ⟨t, value, values, violation, tolerance, hchecked, ⟨-, rfl⟩ | ⟨hwithin, h⟩⟩
  · exact certifies_of_solution?_eq_none rfl
  · exact certifies_of_solution?_eq_none rfl
  intro sol hsol
  obtain ⟨sol', hsol', hr⟩ := solution?_of_accept h
  rw [hsol, Option.some.injEq] at hr
  subst hr
  obtain ⟨hx, hcertified⟩ := hchecked.certifiedAt hsol'
  refine ⟨_, _, tolerance, hcertified, hchecked.tolerance_eq, ?_⟩
  have hcongr : Tensor.ofDatum x = Tensor.ofDatum (.vector t.entries) := by
    rw [hx, Tensor.ofDatum_vector]
  -- The verdict asks whether the tolerance is below the violation, feasibility whether the
  -- violation is at most the tolerance; the violation is a number, so only the tolerance matters.
  have hnumber := Problem.isNaN_constraintViolation hx hcertified.isFinite_point
    hchecked.constraintValues_eq hcertified.isFinite_constraintValues hchecked.violation_eq
  have hviolation := hchecked.violation_eq
  rw [Problem.constraintViolation_congr hcongr] at hviolation
  refine bind_eq_ok_iff.2 ⟨violation, hviolation, ?_⟩
  rw [pure_eq_ok_iff]
  exact atMost_eq_not_isNaN hnumber hwithin

/-- A result has no solution, or it is the verdict on some point, under a report of how often the
objective and its gradient have been called. -/
def Concludes (s : Solver α) (values gradients : Nat) (r : Result α) : Prop :=
  r.solution? = none ∨ ∃ x report, (s.conclude x report).outcome = .ok r ∧
    report.functionEvals = .whole values ∧ report.gradientEvals = .whole gradients

section Conclusions

variable {r : Result α} {method : Method} {around : Surroundings α}

theorem Concludes.certifies [LawfulScalar α] {values gradients : Nat}
    (h : s.Concludes values gradients r) : s.Certifies r := by
  rcases h with hnone | ⟨x, report, h, -⟩
  · exact certifies_of_solution?_eq_none hnone
  · exact certifies_of_conclude h

theorem concludes_of_concludeMinimizer {model : MinimizerModel α} {outcome : MinimizerOutcome α}
    (h : (s.concludeMinimizer method model outcome).outcome = .ok r) :
    s.Concludes model.objective.evaluations model.gradientEvaluations r := by
  obtain ⟨warnings, -, h⟩ := Attempt.outcome_bind_eq_ok_iff.1 h
  obtain ⟨success, -, h⟩ := Attempt.outcome_bind_eq_ok_iff.1 h
  obtain ⟨message, -, h⟩ := Attempt.outcome_bind_eq_ok_iff.1 h
  obtain ⟨iterations, -, h⟩ := Attempt.outcome_bind_eq_ok_iff.1 h
  exact .inr ⟨outcome.point, _, h, rfl, rfl⟩

theorem concludes_of_concludeInterior {model : InteriorModel α} {outcome : InteriorOutcome α}
    (h : (s.concludeInterior model outcome).outcome = .ok r) :
    s.Concludes model.objective.evaluations model.gradient.evaluations r := by
  obtain ⟨status, -, h⟩ := Attempt.outcome_bind_eq_ok_iff.1 h
  obtain ⟨-, -, h⟩ := Attempt.outcome_bind_eq_ok_iff.1 h
  by_cases herror : status ≤ -10
  · rw [if_pos herror] at h
    exact .inl (solution?_of_failure h)
  · rw [if_neg herror] at h
    by_cases hinfeasible : status = 2
    · rw [if_pos hinfeasible] at h
      cases h
      exact .inl rfl
    · rw [if_neg hinfeasible] at h
      exact .inr ⟨outcome.point, _, h, rfl, rfl⟩

theorem concludes_of_verdict {handover : Handover α}
    (h : (s.verdict around method handover).outcome = .ok r) :
    s.Concludes (around.left handover).values (around.left handover).gradients r := by
  cases hend : around.ending handover with
  | raised e =>
      rw [verdict_of_raised hend] at h
      cases h
  | minimizer outcome =>
      obtain ⟨left, hleft, hverdict⟩ := exists_verdict_of_minimizer s method hend
      rw [hverdict] at h
      rw [hleft]
      exact concludes_of_concludeMinimizer h
  | interior outcome =>
      obtain ⟨left, hleft, hverdict⟩ := exists_verdict_of_interior s method hend
      rw [hverdict] at h
      rw [hleft]
      exact concludes_of_concludeInterior h

theorem concludes_of_runMethod (h : (s.runMethod around method).2.outcome = .ok r) :
    ∃ handover, s.handover method = .ok handover ∧
      (s.runMethod around method).1 = some ⟨handover, around.transcript handover⟩ ∧
      s.Concludes (around.left handover).values (around.left handover).gradients r := by
  rcases s.runMethod_cases around method with ⟨e, hrun⟩ | ⟨handover, hhandover, hrun⟩
  · rw [hrun] at h
    cases h
  · rw [hrun] at h ⊢
    exact ⟨handover, hhandover, rfl, concludes_of_verdict h⟩

end Conclusions

def resultOf (s : Solver α) : Except (Error α) (Result α) → Result α
  | .ok r => r
  | .error e => failure s!"{s.backend.label} failed: {e.message}"

theorem value_settle_of_ok {procedure : Attempt α (Returned α)} {r : Result α}
    (h : procedure.outcome = .ok (.result r)) : (s.settle procedure).value = r := by
  change (ExceptT.run procedure).value = _ at h
  unfold settle
  rw [Logged.value_bind, h]
  rfl

theorem value_settle_of_error {procedure : Attempt α (Returned α)} {e : Error α}
    (h : procedure.outcome = .error e) :
    (s.settle procedure).value = failure s!"{s.backend.label} failed: {e.message}" := by
  change (ExceptT.run procedure).value = _ at h
  unfold settle
  rw [Logged.value_bind, h]
  rfl

theorem value_settle (procedure : Attempt α (Result α)) :
    (s.settle (do return .result (← procedure))).value = s.resultOf procedure.outcome := by
  cases houtcome : procedure.outcome with
  | ok r => exact value_settle_of_ok (by rw [Attempt.outcome_bind, houtcome]; rfl)
  | error e => exact value_settle_of_error (by rw [Attempt.outcome_bind, houtcome]; rfl)

/-- A run of a built-in backend comes to the result of its method, which is kept. -/
theorem run_builtIn {method : Method} (around : Surroundings α)
    (hmethod : s.backend.identity = .builtIn method) :
    (s.run around).1 = (s.runMethod around method).1 ∧
      (s.run around).2.value =
        ({ s with result := some (s.resultOf (s.runMethod around method).2.outcome) },
          s.resultOf (s.runMethod around method).2.outcome) := by
  unfold run
  rw [hmethod]
  refine ⟨rfl, ?_⟩
  rw [← value_settle]
  rfl

theorem certifies_of_run [LawfulScalar α] {method : Method} (around : Surroundings α)
    (hmethod : s.backend.identity = .builtIn method) : s.Certifies (s.run around).2.value.2 := by
  rw [(run_builtIn around hmethod).2]
  cases houtcome : (s.runMethod around method).2.outcome with
  | ok r =>
      obtain ⟨handover, -, -, hconcludes⟩ := concludes_of_runMethod houtcome
      exact hconcludes.certifies
  | error e => exact certifies_of_solution?_eq_none rfl

theorem backend_identity (method : Method) :
    (method.backend : Backend α).identity = .builtIn method := by
  cases method <;> rfl

theorem bind_eq_ok {b : Backend α} {p : Problem α} {explicit : Options α}
    {priority : Option (Datum α)} {s : Solver α}
    (h : (bind b p explicit priority).outcome = .ok s) : s.backend = b ∧ s.problem = p.freeze := by
  obtain ⟨-, -, h⟩ := Attempt.outcome_bind_eq_ok_iff.1 h
  obtain ⟨preset, -, h⟩ := Attempt.outcome_bind_eq_ok_iff.1 h
  cases h
  exact ⟨rfl, rfl⟩

/-- A success of a built-in backend has a finite point with finite values, and these are what the
problem gives at the point, whatever the options are and whatever the library does. Within the
tolerance of the backend the point is feasible if and only if that tolerance is a number. -/
theorem certifiedAt_of_run [LawfulScalar α] {method : Method} {p : Problem α} {explicit : Options α}
    {priority : Option (Datum α)} {s : Solver α}
    (hs : (bind method.backend p explicit priority).outcome = .ok s) (around : Surroundings α)
    {sol : Solution α} (hsol : (s.run around).2.value.2.solution? = some sol) :
    s.problem = p.freeze ∧ ∃ xs values tolerance,
      sol.CertifiedAt s.problem xs values ∧ s.feasibilityTolerance = .ok tolerance ∧
        s.problem.isFeasible (.vector xs) tolerance = .ok (!isNaN tolerance) := by
  obtain ⟨hbackend, hproblem⟩ := bind_eq_ok hs
  have hmethod : s.backend.identity = .builtIn method := by
    rw [hbackend, backend_identity]
  exact ⟨hproblem, certifies_of_run around hmethod sol hsol⟩

def shifted : Problem Exact where
  objective := coordinate
  argumentNames := ["u"]
  argumentBounds := [⟨.finite 1, .finite 2, rfl⟩]
  startingPoint := none
  constraints := []
  frozen := false

def endingAt (x : Datum Exact) : Surroundings Exact where
  imports := .only ["scipy"]
  minimizer := .finish {
    point := x
    success := .ok (.flag true)
    message := .ok (.text "done")
    iterations := some (.whole 1)
    status := .ok (.whole 0) }
  interior := .fail .problemFrozen
  procedure := fun _ => throw .problemFrozen

def shiftedSolver (options : Options Exact) : Solver Exact where
  backend := Method.cobyla.backend
  problem := shifted.freeze
  parameters := mergeOptions Method.cobyla.backend [] options

def shiftedSolution (x : Exact) : Solution Exact where
  point := some (.vector [x])
  value := x
  constraintValues := some (.vector [])
  iterations := .whole 1

theorem certifiedAt_of_run_shifted :
    (bind Method.cobyla.backend shifted [] none).outcome = .ok (shiftedSolver []) ∧
    ((shiftedSolver []).run (endingAt (.vector [.finite 1]))).2.value.2.solution? =
      some (shiftedSolution (.finite 1)) ∧
    ∃ xs values tolerance,
      (shiftedSolution (.finite 1)).CertifiedAt (shiftedSolver []).problem xs values ∧
      (shiftedSolver []).feasibilityTolerance = .ok tolerance ∧
      (shiftedSolver []).problem.isFeasible (.vector xs) tolerance = .ok (!isNaN tolerance) := by
  have hs : (bind Method.cobyla.backend shifted [] none).outcome = .ok (shiftedSolver []) := by
    with_unfolding_all rfl
  have hsol : ((shiftedSolver []).run (endingAt (.vector [.finite 1]))).2.value.2.solution? =
      some (shiftedSolution (.finite 1)) := by
    with_unfolding_all rfl
  exact ⟨hs, hsol, (certifiedAt_of_run hs _ hsol).2⟩

/-- A success outside the bounds: a violation of one does not exceed what is not a number, and is
not at most it either. -/
theorem solved_run_of_tolerance_nan :
    let options := [("feasibility_tolerance", .number Exact.notANumber)]
    let s := shiftedSolver options
    (bind Method.cobyla.backend shifted options none).outcome = .ok s ∧
    (s.run (endingAt (.vector [.finite 0]))).2.value.2.tag = "solved" ∧
    (s.run (endingAt (.vector [.finite 0]))).2.value.2.solution? =
      some (shiftedSolution (.finite 0)) ∧
    s.feasibilityTolerance = .ok .notANumber ∧
    s.problem.isFeasible (.vector [.finite 0]) .notANumber = .ok false := by
  refine ⟨?_, ?_, ?_, ?_, ?_⟩ <;> with_unfolding_all rfl

end Solver

end NonlinearProgram
