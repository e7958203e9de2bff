import NonlinearProgram.Benchmark.HockSchittkowskiProblem
import NonlinearProgram.Proofs.Problem.Violation
import NonlinearProgram.Proofs.Scalar.Difference

/-!
# Feasible points of Hock-Schittkowski problem 71

What the violation of a problem is at most, every distance from a bound is. For this problem these
are the distances of the four variables, of their product and of the sum of their squares.
-/

namespace NonlinearProgram

open Scalar

namespace HockSchittkowski

def variableRange : Interval Float := ⟨1.0, 5.0, by decide +kernel⟩

def productRange : Interval Float := ⟨25.0, infinity, by decide +kernel⟩

def squaresRange : Interval Float := ⟨40.0, 40.0, by decide +kernel⟩

def assembled : Problem Float where
  objective := objective
  argumentNames := ["x0", "x1", "x2", "x3"]
  argumentBounds := List.replicate 4 variableRange
  startingPoint := some [1.0, 5.0, 5.0, 1.0]
  constraints := [⟨product, [productRange], [1.0]⟩, ⟨squares, [squaresRange], [1.0]⟩]
  frozen := false

theorem outcome_problem : (problem : Attempt Float (Problem Float)).outcome = .ok assembled := by
  with_unfolding_all rfl

section Values

variable {α : Type} [Scalar α] {family name : String} {value : List α → α}
  {gradient : List α → List α} {hessian : List α → List (List α)} {xs : List α}

theorem compute_closedForm (hxs : xs.length = 4) :
    (closedForm family name value gradient hessian).compute (.vector xs) = .ok [value xs] := by
  have hargument : (closedForm family name value gradient hessian).checkArgument (.vector xs) =
      .ok xs := Function.checkArgument_eq_ok_iff.2 ⟨Tensor.ofDatum_vector xs, hxs⟩
  exact bind_eq_ok_iff.2 ⟨xs, hargument, rfl⟩

end Values

variable {a b c d : Float}

theorem constraintValues_assembled :
    assembled.constraintValues (.vector [a, b, c, d]) =
      .ok [productValue [a, b, c, d], squaresValue [a, b, c, d]] := by
  have hproduct : product.compute (.vector [a, b, c, d]) = .ok [productValue [a, b, c, d]] :=
    compute_closedForm rfl
  have hsquares : squares.compute (.vector [a, b, c, d]) = .ok [squaresValue [a, b, c, d]] :=
    compute_closedForm rfl
  simp only [Problem.constraintValues, Constraint.stackedValues, assembled, List.mapM_cons,
    List.mapM_nil, hproduct, hsquares]
  rfl

theorem constraintViolation_assembled :
    assembled.constraintViolation (.vector [a, b, c, d]) =
      .ok (Constraint.greatest 0.0 ([a, b, c, d].map variableRange.distance ++
        [productRange.distance (productValue [a, b, c, d]),
          squaresRange.distance (squaresValue [a, b, c, d])])) := by
  have hproduct : product.compute (.vector [a, b, c, d]) = .ok [productValue [a, b, c, d]] :=
    compute_closedForm rfl
  have hsquares : squares.compute (.vector [a, b, c, d]) = .ok [squaresValue [a, b, c, d]] :=
    compute_closedForm rfl
  have hdistances : assembled.argumentDistances (.vector [a, b, c, d]) =
      .ok ([a, b, c, d].map variableRange.distance) :=
    bind_eq_ok_iff.2 ⟨_, Tensor.ofDatum_vector _, rfl⟩
  rw [Problem.constraintViolation, hdistances]
  simp only [assembled, List.mapM_cons, List.mapM_nil, Constraint.violation, hproduct, hsquares]
  rfl

/-- At a finite point with finite values that is feasible within a tolerance, no distance is above
the tolerance. -/
theorem distances_of_isFeasible {tolerance : Float} (hpoint : ∀ v ∈ [a, b, c, d], isFinite v = true)
    (hvalues : ∀ v ∈ [productValue [a, b, c, d], squaresValue [a, b, c, d]], isFinite v = true)
    (h : assembled.isFeasible (.vector [a, b, c, d]) tolerance = .ok true) :
    (∀ v ∈ [a, b, c, d], atMost (variableRange.distance v) tolerance = true) ∧
      atMost (productRange.distance (productValue [a, b, c, d])) tolerance = true ∧
      atMost (squaresRange.distance (squaresValue [a, b, c, d])) tolerance = true := by
  obtain ⟨violation, hviolation, h⟩ := bind_eq_ok_iff.1 h
  rw [constraintViolation_assembled, Except.ok.injEq] at hviolation
  rw [pure_eq_ok_iff, ← hviolation] at h
  have hall := Constraint.atMost_of_greatest ?_ h
  · refine ⟨fun v hv => hall _ (List.mem_append_left _ (List.mem_map_of_mem hv)), ?_, ?_⟩
    · exact hall _ (List.mem_append_right _ List.mem_cons_self)
    · exact hall _ (List.mem_append_right _ (List.mem_cons_of_mem _ List.mem_cons_self))
  · intro d hd
    rcases List.mem_append.1 hd with hd | hd
    · obtain ⟨v, hv, rfl⟩ := List.mem_map.1 hd
      exact variableRange.isNaN_distance (hpoint v hv)
    · rcases List.mem_pair.1 hd with rfl | rfl
      · exact productRange.isNaN_distance (hvalues _ List.mem_cons_self)
      · exact squaresRange.isNaN_distance
          (hvalues _ (List.mem_cons_of_mem _ List.mem_cons_self))

end HockSchittkowski

end NonlinearProgram
