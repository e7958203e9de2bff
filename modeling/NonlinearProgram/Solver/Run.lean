import NonlinearProgram.Solver.InteriorPoint
import NonlinearProgram.Solver.Minimizer

/-!
# Running a solver

A built-in backend hands its model to a library, follows the library's conduct to its outcome, and
makes the verdict. What was handed over and what was answered is kept, also when the run fails. A
backend of a user's own runs a procedure of the user's.
-/

namespace NonlinearProgram

/-- What a library was handed. -/
inductive Handover (α : Type) where
  | minimizer (model : MinimizerModel α)
  | interior (model : InteriorModel α)

/-- What passed between a backend and its library. -/
structure Contact (α : Type) where
  handover : Handover α
  transcript : List (Exchange α)

/-- Everything outside this library that a run depends on. -/
structure Surroundings (α : Type) [Scalar α] where
  imports : Imports α
  minimizer : Conduct α (MinimizerOutcome α)
  interior : Conduct α (InteriorOutcome α)
  /-- What a backend of a user's own does. -/
  procedure : Solver α → Attempt α (Solver.Returned α)

namespace Solver

variable {α : Type} [Scalar α]

def minimizerModel (s : Solver α) : Method → Except (Error α) (MinimizerModel α)
  | .trustConstr => s.trustRegionModel
  | .cobyla => s.linearModel
  | _ => s.sequentialModel

def runMinimizer (s : Solver α) (around : Surroundings α) (method : Method) :
    Option (Contact α) × Attempt α (Result α) :=
  match (do around.imports "scipy"; s.minimizerModel method) with
  | .error error => (none, throw error)
  | .ok model =>
    let (left, transcript, ending) := around.minimizer.run MinimizerModel.serve model
    (some ⟨.minimizer model, transcript⟩,
      match ending with
      | .error error => throw error
      | .ok outcome => s.concludeMinimizer method left outcome)

def runInterior (s : Solver α) (around : Surroundings α) (exact : Bool) :
    Option (Contact α) × Attempt α (Result α) :=
  match around.imports "cyipopt" with
  | .error error => (none, throw error)
  | .ok () =>
    let model := s.interiorModel exact
    let (left, transcript, ending) := around.interior.run InteriorModel.serve model
    (some ⟨.interior model, transcript⟩,
      match ending with
      | .error error => throw error
      | .ok outcome => s.concludeInterior left outcome)

def runMethod (s : Solver α) (around : Surroundings α) (method : Method) :
    Option (Contact α) × Attempt α (Result α) :=
  match method with
  | .ipopt => s.runInterior around false
  | .ipoptExact => s.runInterior around true
  | method => s.runMinimizer around method

/-- Runs a solver to its end: the solver with its new result, and what passed between a built-in
backend and its library. -/
def run (s : Solver α) (around : Surroundings α) :
    Option (Contact α) × Logged (Solver α × Result α) :=
  match s.backend.identity with
  | .builtIn method =>
    let (contact, result) := s.runMethod around method
    (contact, s.minimum (do return .result (← result)))
  | .custom _ => (none, s.minimum (around.procedure s))

end Solver

end NonlinearProgram
