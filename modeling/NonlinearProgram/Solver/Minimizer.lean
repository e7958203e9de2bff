import NonlinearProgram.Solver.Conduct
import NonlinearProgram.Solver.Evaluator
import NonlinearProgram.Solver.Sided
import NonlinearProgram.Solver.Verdict

/-!
# Handing a problem to a minimiser

Three built-in backends share one library interface: a method, a starting point, the objective with
the derivatives the method uses, a box for the variables, blocks of constraints, and options. The
constraints are handed over times their scales, the verdict is made on the unscaled ones.
-/

namespace NonlinearProgram

/-- What a minimiser is handed. The objective and its gradient count how often they are called. -/
structure MinimizerModel (α : Type) where
  method : String
  start : List α
  options : Options α
  box : Option (List α × List α)
  objective : CountedEvaluator α α
  gradient : Option (CountedEvaluator α (List α))
  hessian : Option (Datum α → Except (Error α) (Matrix α))
  blocks : List (ConstraintBlock α)

/-- What a minimiser returns. The count of iterations may be missing, and so may any other part but
the point, which is an error for whoever reads it. -/
structure MinimizerOutcome (α : Type) where
  point : Datum α
  success : Except (Error α) (Datum α)
  message : Except (Error α) (Datum α)
  iterations : Option (Datum α)
  status : Except (Error α) (Datum α)

variable {α : Type} [Scalar α]

namespace MinimizerModel

omit [Scalar α] in
def blockAt (m : MinimizerModel α) (position : Datum α) : Except (Error α) (ConstraintBlock α) :=
  Datum.itemAt m.blocks position

omit [Scalar α] in
def uncounted (m : MinimizerModel α) : Request α → Except (Error α) (Response α)
  | .hessian x => do return .matrix (← (← required (.noCallback "hess") m.hessian) x)
  | .blockValue k x => do return .vector (← (← m.blockAt k).value x)
  | .blockJacobian k x => do
    return .matrix (← (← required (.noKey "jac") (← m.blockAt k).jacobian) x)
  | .blockHessian k x weights => do
    return .matrix (← (← required (.noKey "hess") (← m.blockAt k).hessian) x weights)
  | .incomplete (some "hess") (some k) error => do
    let _ ← required (.noKey "hess") (← m.blockAt k).hessian
    .error error
  | .incomplete _ _ error => .error error
  | .other name block => do
    let _ ← block.mapM m.blockAt
    .error (.fault (.noKey name))
  | _ => .error (.fault (.noCallback "callback"))

omit [Scalar α] in
/-- What is handed over after a request, and the answer. -/
def serve (m : MinimizerModel α) :
    Request α → MinimizerModel α × Except (Error α) (Response α)
  | .value x =>
    let (objective, value) := m.objective.call x
    ({ m with objective := objective }, .number <$> value)
  | .gradient x =>
    match m.gradient with
    | none => (m, .error (.fault (.noCallback "jac")))
    | some gradient =>
      let (gradient, slopes) := gradient.call x
      ({ m with gradient := some gradient }, .vector <$> slopes)
  | request => (m, m.uncounted request)

omit [Scalar α] in
def gradientEvaluations (m : MinimizerModel α) : Nat := (m.gradient.map (·.evaluations)).getD 0

end MinimizerModel

namespace Solver

def sequentialModel (s : Solver α) : Except (Error α) (MinimizerModel α) := do
  let p := s.problem
  return {
    method := "SLSQP"
    start := p.initialPoint
    options := s.libraryOptions []
    box := p.argumentBox
    objective := p.objective.countedValue
    gradient := some p.objective.countedGradient
    hessian := none
    blocks := ← p.sidedBlocks true false }

def trustRegionModel (s : Solver α) : Except (Error α) (MinimizerModel α) := do
  let p := s.problem
  return {
    method := "trust-constr"
    start := p.initialPoint
    options := s.libraryOptions []
    box := p.argumentBox
    objective := p.objective.countedValue
    gradient := some p.objective.countedGradient
    hessian := some fun x => p.objective.hessian x (.whole 0)
    blocks := ← p.boundedBlocks }

def linearModel (s : Solver α) : Except (Error α) (MinimizerModel α) := do
  let p := s.problem
  return {
    method := "COBYLA"
    start := p.initialPoint
    options := s.libraryOptions []
    box := p.argumentBox
    objective := p.objective.countedValue
    gradient := none
    hessian := none
    blocks := ← p.sidedBlocks false true }

/-- The warnings of a trust-region run: status 2 means that steps became too short. -/
def stepWarnings (outcome : MinimizerOutcome α) : Except (Error α) (List (Datum α)) := do
  if (← outcome.status).whole? == some 2 then
    return [.text s!"Stopped on step size rather than optimality: {(← outcome.message).write}"]
  else return []

/-- The iterations of a run, none where the outcome tells of none. Only the derivative-free method
takes a count that counts as false for none. -/
def iterationsOf (lenient : Bool) : Option (Datum α) → Except (Error α) Int
  | none => .ok 0
  | some count => if lenient && !count.holds then .ok 0 else count.toWhole

/-- The verdict on what a minimiser returned, with the counts of what it was handed. -/
def concludeMinimizer (s : Solver α) (method : Method) (model : MinimizerModel α)
    (outcome : MinimizerOutcome α) : Attempt α (Result α) := do
  let warnings ← (if method = .trustConstr then stepWarnings outcome else .ok [] :
    Except (Error α) (List (Datum α)))
  let success ← outcome.success
  let message ← outcome.message
  let iterations ← (iterationsOf (method = .cobyla) outcome.iterations : Except (Error α) Int)
  s.conclude outcome.point {
    converged := success
    message := .text message.write
    warnings := .list warnings
    iterations := .whole iterations
    functionEvals := .whole model.objective.evaluations
    gradientEvals := .whole model.gradientEvaluations }

end Solver

end NonlinearProgram
