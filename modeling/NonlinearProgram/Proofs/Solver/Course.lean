import NonlinearProgram.Proofs.Problem.Rescaled
import NonlinearProgram.Proofs.Solver.Classification

/-!
# Runs that take the same course

The verdict on a run is made from unscaled values of the problem at the final point, from what the
library returned, and from how many requests there were of a kind. So solvers whose problems differ
in their scales alone come to the same result, and report the same on the way, where the library
makes the same requests and ends in the same way.
-/

namespace NonlinearProgram

variable {α : Type} [Scalar α]

namespace Exchange

variable {transcript transcript' : List (Exchange α)}
  (h : transcript.map (·.1) = transcript'.map (·.1))

include h

omit [Scalar α] in
theorem valueCount_eq_of_requests : valueCount transcript = valueCount transcript' := by
  have hcount := congrArg (List.countP Request.isValue) h
  rwa [List.countP_map, List.countP_map] at hcount

omit [Scalar α] in
theorem gradientCount_eq_of_requests : gradientCount transcript = gradientCount transcript' := by
  have hcount := congrArg (List.countP Request.isGradient) h
  rwa [List.countP_map, List.countP_map] at hcount

theorem lastIteration_eq_of_requests : lastIteration transcript = lastIteration transcript' := by
  have hnumbers := congrArg (List.filterMap Request.iteration?) h
  rw [List.filterMap_map, List.filterMap_map] at hnumbers
  exact congrArg (List.getLastD · 0) hnumbers

end Exchange

namespace Solver

/-- Two solvers are the same but for the scales of their problems. -/
structure Rescaled (s t : Solver α) : Prop where
  backend : s.backend = t.backend
  parameters : s.parameters = t.parameters
  problem : s.problem.Rescaled t.problem

namespace Rescaled

variable {s t : Solver α} {method : Method} (h : s.Rescaled t)

include h

theorem conclude_eq (x : Datum α) (report : RunReport α) :
    s.conclude x report = t.conclude x report := by
  unfold conclude accept warningsOf feasibilityTolerance
  rw [h.backend, h.parameters, h.problem.objective, h.problem.constraintValues_eq,
    h.problem.constraintViolation_eq]

theorem concludeMinimizer_eq {m n : MinimizerModel α} (outcome : MinimizerOutcome α)
    (hvalues : m.objective.evaluations = n.objective.evaluations)
    (hgradients : m.gradientEvaluations = n.gradientEvaluations) :
    s.concludeMinimizer method m outcome = t.concludeMinimizer method n outcome := by
  unfold concludeMinimizer
  simp only [hvalues, hgradients, h.conclude_eq]

theorem concludeInterior_eq {m n : InteriorModel α} (outcome : InteriorOutcome α)
    (hvalues : m.objective.evaluations = n.objective.evaluations)
    (hgradients : m.gradient.evaluations = n.gradient.evaluations)
    (hiterations : m.iterations = n.iterations) :
    s.concludeInterior m outcome = t.concludeInterior n outcome := by
  unfold concludeInterior
  simp only [hvalues, hgradients, hiterations, h.conclude_eq]

theorem verdict_eq {around around' : Surroundings α} {handover handover' : Handover α}
    (hs : s.handover method = .ok handover) (ht : t.handover method = .ok handover')
    (hrequests : (around.transcript handover).map (·.1) = (around'.transcript handover').map (·.1))
    (hending : around.ending handover = around'.ending handover') :
    s.verdict around method handover = t.verdict around' method handover' := by
  have hvalues : (around.left handover).values = (around'.left handover').values := by
    rw [(counts_left around hs).1, (counts_left around' ht).1,
      Exchange.valueCount_eq_of_requests hrequests]
  have hgradients : (around.left handover).gradients = (around'.left handover').gradients := by
    rw [(counts_left around hs).2, (counts_left around' ht).2,
      Exchange.gradientCount_eq_of_requests hrequests]
  cases hend : around.ending handover with
  | raised e => rw [verdict_of_raised hend, verdict_of_raised (hending ▸ hend)]
  | minimizer outcome =>
      obtain ⟨m, hm, hverdict⟩ := exists_verdict_of_minimizer s method hend
      obtain ⟨n, hn, hverdict'⟩ :=
        exists_verdict_of_minimizer t method (hending ▸ hend)
      rw [hm, hn] at hvalues hgradients
      rw [hverdict, hverdict']
      exact h.concludeMinimizer_eq outcome hvalues hgradients
  | interior outcome =>
      obtain ⟨m, hm, hverdict⟩ := exists_verdict_of_interior s method hend
      obtain ⟨n, hn, hverdict'⟩ :=
        exists_verdict_of_interior t method (hending ▸ hend)
      have hiterations : m.iterations = n.iterations := by
        rw [iterations_left hs hm, iterations_left ht hn,
          Exchange.lastIteration_eq_of_requests hrequests]
      rw [hm, hn] at hvalues hgradients
      rw [hverdict, hverdict']
      exact h.concludeInterior_eq outcome hvalues hgradients hiterations

end Rescaled

/-- What a library did in a run: whether it could be imported, the callbacks that it called, and how
it ended the run. -/
def course (s : Solver α) (around : Surroundings α) (method : Method) :
    Except (Error α) (Option (List (Request α) × Ending α)) := do
  around.imports method.library
  return (s.run around).1.map fun contact =>
    (contact.transcript.map (·.1), around.ending contact.handover)

section Runs

variable {s t : Solver α} {method : Method} {around around' : Surroundings α}

theorem course_of_import_error {e : Error α} (himport : around.imports method.library = .error e) :
    s.course around method = .error e := by
  rw [course, himport]
  rfl

theorem course_of_handover (hmethod : s.backend.identity = .builtIn method)
    {handover : Handover α} (himport : around.imports method.library = .ok ())
    (h : s.handover method = .ok handover) :
    s.course around method =
      .ok (some ((around.transcript handover).map (·.1), around.ending handover)) := by
  rw [course, himport, (run_builtIn around hmethod).1, runMethod_of_handover himport h]
  rfl

/-- The course of a run is all that the verdict on it needs to know of the library. -/
theorem Rescaled.runMethod_eq [LawfulScalar α] (h : s.Rescaled t) (hs : s.problem.WellFormed)
    (ht : t.problem.WellFormed) (hmethod : s.backend.identity = .builtIn method)
    (hcourse : s.course around method = t.course around' method) :
    (s.runMethod around method).2 = (t.runMethod around' method).2 := by
  have hmethod' : t.backend.identity = .builtIn method := h.backend ▸ hmethod
  obtain ⟨handover, hhandover⟩ := exists_handover hs method
  obtain ⟨handover', hhandover'⟩ := exists_handover ht method
  cases himport : around.imports method.library with
  | error e =>
      rw [course_of_import_error himport] at hcourse
      cases himport' : around'.imports method.library with
      | error e' =>
          rw [course_of_import_error himport', Except.error.injEq] at hcourse
          rw [runMethod_of_import_error himport, runMethod_of_import_error himport', hcourse]
      | ok _ =>
          rw [course_of_handover hmethod' himport' hhandover'] at hcourse
          cases hcourse
  | ok _ =>
      rw [course_of_handover hmethod himport hhandover] at hcourse
      cases himport' : around'.imports method.library with
      | error e' =>
          rw [course_of_import_error himport'] at hcourse
          cases hcourse
      | ok _ =>
          rw [course_of_handover hmethod' himport' hhandover', Except.ok.injEq, Option.some.injEq,
            Prod.mk.injEq] at hcourse
          rw [runMethod_of_handover himport hhandover, runMethod_of_handover himport' hhandover']
          exact h.verdict_eq hhandover hhandover' hcourse.1 hcourse.2

theorem Rescaled.settle_eq (h : s.Rescaled t) (procedure : Attempt α (Returned α)) :
    s.settle procedure = t.settle procedure := by
  unfold settle
  rw [h.backend]

/-- Runs that take the same course come to the same result, and report the same on the way. -/
theorem Rescaled.run_eq [LawfulScalar α] (h : s.Rescaled t) (hs : s.problem.WellFormed)
    (ht : t.problem.WellFormed) (hmethod : s.backend.identity = .builtIn method)
    (hcourse : s.course around method = t.course around' method) :
    (s.run around).2.value.2 = (t.run around').2.value.2 ∧
      (s.run around).2.records = (t.run around').2.records := by
  have hmethod' : t.backend.identity = .builtIn method := h.backend ▸ hmethod
  have hrun := h.runMethod_eq hs ht hmethod hcourse
  unfold run
  rw [hmethod, hmethod']
  simp only [hrun]
  unfold minimum
  rw [h.settle_eq, h.backend, h.problem.inputSize_eq, h.problem.componentCount_eq]
  exact ⟨rfl, rfl⟩

end Runs

end Solver

end NonlinearProgram
