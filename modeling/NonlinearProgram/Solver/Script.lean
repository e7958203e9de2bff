import NonlinearProgram.Error.Raised
import NonlinearProgram.Result.Reader
import NonlinearProgram.Solver.Run

/-!
# Scripts

What a library does in one run may be written down as data beforehand: the calls of the callbacks it
is handed, in order, and how the run ends. A script for a backend of a user's own says what its
procedure returns. A script that lacks something fails where it is needed.
-/

namespace NonlinearProgram

variable {α : Type} [Scalar α]

/-- What whoever runs a script adds to it: the errors that it may raise, how its data are turned
into arrays, and the type of what a minimiser returns in it. -/
structure Script.Host (α : Type) where
  kinds : RaisableKinds
  array : Datum α → Except (Error α) (Datum α)
  outcomeType : String

namespace Request

/-- A call of a callback that a minimiser was handed: a point, a name, and perhaps the position of a
block of constraints. -/
def ofMinimizerCall (host : Script.Host α) (call : Datum α) : Request α :=
  match (do host.array (← call.require "x")) with
  | .error error => incomplete none none error
  | .ok x =>
    match call.field? "call", call.field? "k" with
    | none, block => other "call" block
    | some (.text "fun"), none => value x
    | some (.text "jac"), none => gradient x
    | some (.text "hess"), none => hessian x
    | some (.text "fun"), some k => blockValue k x
    | some (.text "jac"), some k => blockJacobian k x
    | some (.text "hess"), some k =>
      match (do Tensor.ofDatum (← host.array (← call.require "v"))) with
      | .error error => incomplete (some "hess") (some k) error
      | .ok weights => blockHessian k x weights
    | some name, block => other name.write block

def needing {β : Type} (name : String) (part : Except (Error α) β) (request : β → Request α) :
    Request α :=
  match part with
  | .ok d => request d
  | .error error => incomplete (some name) none error

def lagrangianParts (host : Script.Host α) (call : Datum α) :
    Except (Error α) (Datum α × Tensor α × α) := do
  let x ← host.array (← call.require "x")
  let multipliers ← Tensor.ofDatum (← host.array (← call.require "lagrange"))
  return (x, multipliers, ← (← call.require "obj_factor").toScalar)

def ofInteriorName (host : Script.Host α) (call : Datum α) (name : String) : Request α :=
  let point := do host.array (← call.require "x")
  match name with
  | "objective" => needing name point value
  | "gradient" => needing name point gradient
  | "constraints" => needing name point constraints
  | "jacobian" => needing name point jacobian
  | "jacobianstructure" => jacobianPositions
  | "hessianstructure" => hessianPositions
  | "hessian" =>
    needing name (lagrangianParts host call) fun (x, multipliers, factor) =>
      lagrangian x multipliers factor
  | "intermediate" => needing name (call.require "iter_count") iteration
  | name => other name none

def ofInteriorCall (host : Script.Host α) (call : Datum α) : Request α :=
  match (do (← call.require "call").asText) with
  | .ok name => ofInteriorName host call name
  | .error error => incomplete none none error

end Request

namespace Script

/-- How a run ends: with the error that the script raises, if it does, or else in a given way. -/
def ending {β : Type} (kinds : RaisableKinds) (script : Datum α) (outcome : Except (Error α) β) :
    Except (Error α) β :=
  match script.field? "raise" with
  | some (.list (kind :: message :: _)) => .error (kinds.error kind message)
  | _ => outcome

def conduct {β : Type} (kinds : RaisableKinds) (script : Datum α) (toRequest : Datum α → Request α)
    (outcome : Except (Error α) β) : Conduct α β :=
  match script with
  | .record _ =>
    match ((script.field? "calls").getD (.list [])).items with
    | .ok calls => .script (calls.map toRequest) (ending kinds script outcome)
    | .error error => .fail error
  | script => .fail (.fault (.noField script.typeName "get"))

def minimizerOutcome (host : Script.Host α) (script : Datum α) :
    Except (Error α) (MinimizerOutcome α) := do
  let part (name : String) := required (.noField host.outcomeType name) (script.field? name)
  return {
    point := ← host.array (← script.require "x")
    success := part "success"
    message := part "message"
    iterations := script.field? "nit"
    status := part "status" }

def toByte : Datum α → Except (Error α) Nat
  | .whole n => if 0 ≤ n && n < 256 then .ok n.toNat else .error (.fault .notByte)
  | .flag b => .ok (if b then 1 else 0)
  | d => .error (.fault (.notCount d.typeName))

/-- The bytes that a datum stands for. A number by itself stands for as many zeros. -/
def toBytes : Datum α → Except (Error α) (List Nat)
  | .list items => items.mapM toByte
  | .record fields => fields.mapM fun field => toByte (.text field.1 : Datum α)
  | .whole n => if n < 0 then .error (.fault .negativeCount) else .ok (List.replicate n.toNat 0)
  | .flag b => .ok (if b then [0] else [])
  | .text _ => .error (.fault .textForBytes)
  | d => .error (.fault (.notBytes d.typeName))

def statusMessage (script : Datum α) : Except (Error α) (StatusMessage α) :=
  match script.field? "status_msg_bytes" with
  | some bytes => .bytes <$> toBytes bytes
  | none => .datum <$> script.require "status_msg"

def interiorOutcome (host : Script.Host α) (script : Datum α) :
    Except (Error α) (InteriorOutcome α) := do
  let status ← script.require "status"
  let message ← statusMessage script
  let point ← script.require "x"
  let multipliers ← ((script.field? "mult_g").bind Datum.given?).mapM host.array
  return {
    point := ← host.array point
    status := status
    message := message
    multipliers := multipliers.getD .nothing }

def concludeReport (script : Datum α) (s : Solver α) : Attempt α (Result α) := do
  let multipliers ← ((script.field? "multipliers").getD .nothing).numeric
  let point ← (← script.require "x").numeric
  let count (name : String) : Datum α := (script.field? name).getD (.whole 0)
  s.conclude point {
    converged := ← script.require "converged"
    message := ← script.require "message"
    warnings := (script.field? "warnings").getD (.list [])
    multipliers := multipliers
    iterations := count "n_iterations"
    functionEvals := count "n_function_evals"
    gradientEvals := count "n_gradient_evals" }

def startAsSolution (s : Solver α) : Except (Error α) (Result α) := do
  let start := s.problem.initialPoint
  return .solved {
    point := some (.vector start)
    value := ← s.problem.objective.scalarValue (.vector start) }

/-- What the procedure of a backend of a user's own does. Unless the script tells of something else
it takes the starting point for the solution. -/
def procedure (kinds : RaisableKinds) (script : Datum α) (s : Solver α) :
    Attempt α (Solver.Returned α) := do
  match ← script.require "kind" with
  | .text "raise" => throw (kinds.error (← script.require "error") (← script.require "message"))
  | .text "return" => return .other ((script.field? "value").getD .nothing).typeName
  | .text "result" => return .result (← (Result.ofDatum script : Except (Error α) (Result α)))
  | .text "outcome" => return .result (← concludeReport script s)
  | _ => return .result (← (startAsSolution s : Except (Error α) (Result α)))

def surroundings (host : Script.Host α) (installed : List String) (script : Datum α) :
    Surroundings α where
  imports := .only installed
  minimizer :=
    conduct host.kinds script (Request.ofMinimizerCall host) (minimizerOutcome host script)
  interior := conduct host.kinds script (Request.ofInteriorCall host) (interiorOutcome host script)
  procedure := procedure host.kinds script

end Script

end NonlinearProgram
