import NonlinearProgram.Solver.Basic
import NonlinearProgram.Solver.Evaluator

/-!
# The verdict on a finished run

Whatever a library reports, the verdict is made from its final point: a point, objective or
constraint value that is not finite is a failure, an infeasible point is no solution, and a
feasible point is a solution, with warnings where the run did not converge or gave some.
-/

namespace NonlinearProgram

open Scalar

/-- What a finished run reports beside its point. -/
structure RunReport (α : Type) where
  /-- Whether the run converged, if this counts as true. -/
  converged : Datum α
  message : Datum α
  warnings : Datum α := .list []
  multipliers : Datum α := .nothing
  iterations : Datum α := .whole 0
  functionEvals : Datum α := .whole 0
  gradientEvals : Datum α := .whole 0

namespace Solver

variable {α : Type} [Scalar α]

def warningsOf (s : Solver α) (report : RunReport α) : Except (Error α) (List (Datum α)) := do
  let warnings ← report.warnings.items
  if report.converged.holds then return warnings
  else if report.message.holds then return warnings ++ [report.message]
  else return warnings ++ [.text s!"{s.backend.label} did not converge"]

def infeasibleReason (message : String) (violation tolerance : α) : String :=
  message ++ " (constraint violation " ++ exponential 3 violation ++ " exceeds "
    ++ exponential 1 tolerance ++ ")"

def solutionOf (point : Tensor α) (value : α) (constraintValues : List α) (report : RunReport α) :
    Except (Error α) (Solution α) := do
  return {
    point := some point
    value := value
    constraintValues := some (.vector constraintValues)
    multipliers := ← report.multipliers.given?.mapM Tensor.ofDatum
    iterations := report.iterations
    functionEvals := report.functionEvals
    gradientEvals := report.gradientEvals }

def accept (s : Solver α) (solution : Except (Error α) (Solution α)) (report : RunReport α) :
    Attempt α (Result α) := do
  let warnings ← (s.warningsOf report : Except (Error α) (List (Datum α)))
  if warnings.isEmpty then return .solved (← solution)
  else
    Logged.report .warning
      (s!"{s.backend.label} solution has warnings: " ++ (Datum.list warnings).write)
    return .solvedWithWarnings (← solution) (warnings.map (·.write))

def failure (text : String) : Result α := .failed (.text text)

/-- The verdict on a finished run. -/
def conclude (s : Solver α) (x : Datum α) (report : RunReport α) : Attempt α (Result α) := do
  let name := s.backend.label
  let message := report.message.write
  let point ← Tensor.ofDatum x
  if !point.entries.all isFinite then
    return failure s!"{name} produced a non-finite point: {message}"
  let value ← s.problem.objective.scalarValue x
  if !isFinite value then
    return failure s!"Objective is not finite at the final point: {message}"
  let constraintValues ← s.problem.constraintValues x
  if !constraintValues.all isFinite then
    return failure s!"Constraints are not finite at the final point: {message}"
  let violation ← s.problem.constraintViolation x
  let tolerance ← s.feasibilityTolerance
  if less tolerance violation then
    Logged.report .warning
      (s!"{name} stopped at an infeasible point (violation "
        ++ exponential 3 violation ++ ")")
    return .noSolution (.text (infeasibleReason message violation tolerance))
  s.accept (solutionOf point value constraintValues report) report

/-- What a solving procedure returns: a result, or a value of some other type. -/
inductive Returned (α : Type) where
  | result (r : Result α)
  | other (typeName : String)

/-- The result of a procedure that may have failed or returned something else. -/
def settle (s : Solver α) (procedure : Attempt α (Returned α)) : Logged (Result α) := do
  let name := s.backend.label
  match ← procedure.run with
  | .ok (.result r) => return r
  | .ok (.other typeName) =>
    return failure s!"{name} returned {typeName} instead of a result variant"
  | .error error =>
    let message := s!"{name} failed: {error.message}"
    Logged.report .error message
    return failure message

/-- Runs a procedure to its end. There is a result whatever the procedure does, and it is kept. -/
def minimum (s : Solver α) (procedure : Attempt α (Returned α)) :
    Logged (Solver α × Result α) := do
  let name := s.backend.label
  Logged.report .info
    (s!"Solving with {name}: {s.problem.inputSize} variables, "
      ++ s!"{s.problem.componentCount} constraint components")
  let result ← s.settle procedure
  Logged.report .info s!"{name} finished: {result.tag}"
  return ({ s with result := some result }, result)

end Solver

end NonlinearProgram
