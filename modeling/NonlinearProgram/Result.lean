import NonlinearProgram.Tensor

/-!
# Results

A finished run is one of four: solved, solved with warnings, without a solution, or failed. The two
successes carry the same data; a success with warnings has at least one. Counts, reasons and
messages are kept as they were reported, so a count need not be a number.
-/

namespace NonlinearProgram

/-- A point, its value, and how it was reached. A solution of a user's own may lack the point. -/
structure Solution (α : Type) where
  point : Option (Tensor α)
  value : α
  constraintValues : Option (Tensor α) := none
  multipliers : Option (Tensor α) := none
  iterations : Datum α := .whole 0
  functionEvals : Datum α := .whole 0
  gradientEvals : Datum α := .whole 0

/-- The solution of what was handed over for the point, the value, the constraint values and the
multipliers, of which all but the value may be nothing. -/
def Solution.ofData {α : Type} [Scalar α] (point value constraintValues multipliers : Datum α) :
    Except (Error α) (Solution α) := do
  let point ← point.given?.mapM Tensor.ofDatum
  let value ← value.toScalar
  let constraintValues ← constraintValues.given?.mapM Tensor.ofDatum
  let multipliers ← multipliers.given?.mapM Tensor.ofDatum
  return {
    point := point
    value := value
    constraintValues := constraintValues
    multipliers := multipliers }

inductive Result (α : Type) where
  /-- A point that meets the backend's criteria. -/
  | solved (solution : Solution α)
  /-- A usable point whose quality is not fully certified. -/
  | solvedWithWarnings (solution : Solution α) (warnings : List String)
  /-- The backend ran and found no acceptable point. -/
  | noSolution (reason : Datum α)
  /-- The model or the backend malfunctioned. -/
  | failed (message : Datum α)

namespace Result

variable {α : Type}

def withWarnings (solution : Solution α) (warnings : List String) : Except (Error α) (Result α) :=
  if warnings.isEmpty then .error .noWarnings else .ok (solvedWithWarnings solution warnings)

def tag : Result α → String
  | solved _ => "solved"
  | solvedWithWarnings .. => "solved_with_warnings"
  | noSolution _ => "no_solution"
  | failed _ => "error"

def typeName : Result α → String
  | solved _ => "Solved"
  | solvedWithWarnings .. => "SolvedWithWarnings"
  | noSolution _ => "NoSolution"
  | failed _ => "SolverError"

def isSuccess : Result α → Bool
  | solved _ | solvedWithWarnings .. => true
  | noSolution _ | failed _ => false

def solution? : Result α → Option (Solution α)
  | solved s | solvedWithWarnings s _ => some s
  | noSolution _ | failed _ => none

def solutionFields (s : Solution α) : Except (Error α) (Fields α) :=
  match s.point with
  | none => .error (.fault (.noField (Datum.typeName (.nothing : Datum α)) "tolist"))
  | some point => .ok [("x", point.toDatum), ("value", .number s.value),
    ("constraint_values", (s.constraintValues.map Tensor.toDatum).getD .nothing),
    ("multipliers", (s.multipliers.map Tensor.toDatum).getD .nothing),
    ("n_iterations", s.iterations), ("n_function_evals", s.functionEvals),
    ("n_gradient_evals", s.gradientEvals)]

def variantFields : Result α → Except (Error α) (Fields α)
  | solved s => solutionFields s
  | solvedWithWarnings s warnings => do
    return (← solutionFields s) ++ [("warnings", .texts warnings)]
  | noSolution reason => .ok [("reason", reason)]
  | failed message => .ok [("message", message)]

def fields (r : Result α) : Except (Error α) (Fields α) := do
  return ("status", .text r.tag) :: (← r.variantFields)

theorem isSuccess_eq_isSome (r : Result α) : r.isSuccess = r.solution?.isSome := by
  cases r <;> rfl

end Result

end NonlinearProgram
