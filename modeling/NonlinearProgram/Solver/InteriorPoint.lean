import NonlinearProgram.Solver.Conduct
import NonlinearProgram.Solver.Evaluator
import NonlinearProgram.Solver.Verdict
import NonlinearProgram.Text.Utf8

/-!
# Handing a problem to an interior-point library

Two built-in backends hand over unscaled constraints with their bounds, and the scales beside them
as scaling factors. Derivatives go over as lists of entries with their positions: all entries of
the Jacobian by rows, and the lower triangle of the Hessian of the Lagrangian.
-/

namespace NonlinearProgram

open Scalar

/-- What an interior-point library is handed. The objective and its gradient count how often they
are called, and the last iteration reported is kept. -/
structure InteriorModel (α : Type) where
  variableCount : Nat
  componentCount : Nat
  lower : List α
  upper : List α
  constraintLower : List α
  constraintUpper : List α
  /-- A factor for the objective and one for each component, where any differs from one. -/
  scaling : Option (α × List α)
  options : Options α
  start : List α
  objective : CountedEvaluator α α
  gradient : CountedEvaluator α (List α)
  constraints : Datum α → Except (Error α) (List α)
  jacobian : Datum α → Except (Error α) (List α)
  /-- The entries of the Hessian of the Lagrangian, where it is exact. -/
  lagrangian : Option (Datum α → Tensor α → α → Except (Error α) (List α))
  iterations : Int := 0

/-- The message of an outcome: a datum, or bytes that stand for a text. -/
inductive StatusMessage (α : Type) where
  | datum (d : Datum α)
  | bytes (bs : List Nat)

def StatusMessage.decode {α : Type} : StatusMessage α → Datum α
  | datum d => d
  | bytes bs => .text (Text.decodeUtf8 bs)

/-- What an interior-point library returns. -/
structure InteriorOutcome (α : Type) where
  point : Datum α
  status : Datum α
  message : StatusMessage α
  multipliers : Datum α

def densePositions (height width : Nat) : List (Nat × Nat) :=
  (List.range height).flatMap fun i => (List.range width).map fun j => (i, j)

def lowerPositions (size : Nat) : List (Nat × Nat) :=
  (List.range size).flatMap fun i => (List.range (i + 1)).map fun j => (i, j)

def splitPositions {α : Type} (positions : List (Nat × Nat)) : Response α :=
  .positions (positions.map (·.1)) (positions.map (·.2))

variable {α : Type} [Scalar α]

def Matrix.entriesAt (a : Matrix α) (positions : List (Nat × Nat)) : List α :=
  positions.filterMap fun (i, j) => a.entry? i j

namespace Problem

/-- The entries of the Hessian of the Lagrangian on and below its diagonal: a factor times the
Hessian of the objective, plus the Hessians of the components times their multipliers. -/
def lagrangianEntries (p : Problem α) (x : Datum α) (multipliers : Tensor α) (factor : α) :
    Except (Error α) (List α) := do
  let objective ← p.objective.hessian x (.whole 0)
  let constraints ← p.stackedUnscaled.hessian x multipliers
  return ((objective.scale factor).add constraints).entriesAt (lowerPositions p.inputSize)

def jacobianEntries (p : Problem α) (x : Datum α) : Except (Error α) (List α) := do
  return (← p.stackedUnscaled.jacobian x).rows.flatten

end Problem

namespace InteriorModel

def callbackOwner (m : InteriorModel α) : String :=
  if m.lagrangian.isSome then "_IpoptHessianAdapter" else "_IpoptAdapter"

def lacks (m : InteriorModel α) (name : String) : Fault := .noField m.callbackOwner name

def has (m : InteriorModel α) (name : String) : Bool :=
  ["objective", "gradient", "constraints", "jacobian", "intermediate"].contains name
    || (name = "hessian" && m.lagrangian.isSome)

def uncounted (m : InteriorModel α) : Request α → Except (Error α) (Response α)
  | .constraints x => do return .vector (← m.constraints x)
  | .jacobian x => do return .vector (← m.jacobian x)
  | .jacobianPositions => .ok (splitPositions (densePositions m.componentCount m.variableCount))
  | .lagrangian x multipliers factor => do
    return .vector (← (← required (m.lacks "hessian") m.lagrangian) x multipliers factor)
  | .hessianPositions =>
    if m.lagrangian.isSome then .ok (splitPositions (lowerPositions m.variableCount))
    else .error (.fault (m.lacks "hessianstructure"))
  | .incomplete (some name) _ error => .error (if m.has name then error else .fault (m.lacks name))
  | .incomplete none _ error => .error error
  | .other name .. => .error (.fault (m.lacks name))
  | _ => .error (.fault (.noCallback "callback"))

/-- What is handed over after a request, and the answer. -/
def serve (m : InteriorModel α) : Request α → InteriorModel α × Except (Error α) (Response α)
  | .value x =>
    let (objective, value) := m.objective.call x
    ({ m with objective := objective }, .number <$> value)
  | .gradient x =>
    let (gradient, slopes) := m.gradient.call x
    ({ m with gradient := gradient }, .vector <$> slopes)
  | .iteration number =>
    match number.toWhole with
    | .ok n => ({ m with iterations := n }, .ok .goOn)
    | .error error => (m, .error error)
  | request => (m, m.uncounted request)

end InteriorModel

namespace Solver

def scalingFactors (p : Problem α) : Option (α × List α) :=
  if p.componentScales.any fun scale => !equal scale 1.0 then some (1.0, p.componentScales)
  else none

/-- The options for the library. Approximated Hessians are asked for whatever the user gave; user
scaling is asked for where there is any and the user did not choose. -/
def interiorOptions (s : Solver α) (exact : Bool) : Options α :=
  let options := s.libraryOptions []
  let options :=
    if exact then options
    else Dictionary.put "hessian_approximation" (.text "limited-memory") options
  if (scalingFactors s.problem).isSome && (options.get? "nlp_scaling_method").isNone then
    Dictionary.put "nlp_scaling_method" (.text "user-scaling") options
  else options

def interiorModel (s : Solver α) (exact : Bool) : InteriorModel α :=
  let p := s.problem
  let box := Problem.ends p.argumentBounds
  let range := Problem.ends p.componentBounds
  { variableCount := p.inputSize
    componentCount := p.componentCount
    lower := box.1
    upper := box.2
    constraintLower := range.1
    constraintUpper := range.2
    scaling := scalingFactors p
    options := s.interiorOptions exact
    start := p.initialPoint
    objective := p.objective.countedValue
    gradient := p.objective.countedGradient
    constraints := p.stackedUnscaled.values
    jacobian := p.jacobianEntries
    lagrangian := if exact then some p.lagrangianEntries else none }

/-- The verdict on what an interior-point library returned, with the counts of what it was handed.
Statuses from -10 down are errors, and status 2 means that there is no feasible point. Status 0 is
success, and status 1 success to a lower standard. -/
def concludeInterior (s : Solver α) (model : InteriorModel α) (outcome : InteriorOutcome α) :
    Attempt α (Result α) := do
  let status ← outcome.status.toWhole
  let message := outcome.message.decode
  Logged.report .info s!"IPOPT status {status}: {message.write}"
  if status ≤ -10 then return failure s!"IPOPT error {status}: {message.write}"
  else if status = 2 then return .noSolution message
  else
    s.conclude outcome.point {
      converged := .flag (status = 0 || status = 1)
      message := message
      warnings := .list (if status = 1 then [message] else [])
      multipliers := outcome.multipliers
      iterations := .whole model.iterations
      functionEvals := .whole model.objective.evaluations
      gradientEvals := .whole model.gradient.evaluations }

end Solver

end NonlinearProgram
