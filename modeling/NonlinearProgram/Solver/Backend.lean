import NonlinearProgram.Options
import NonlinearProgram.Problem.Basic

/-!
# Solver backends

A backend declares under which name it is known, which library and which tiers it needs, and how
its options are called. Five backends are built in; any number of others can be declared, and two
declarations are different backends even when they agree in everything.
-/

namespace NonlinearProgram

/-- The methods of the built-in backends. -/
inductive Method where
  /-- Sequential least squares. -/
  | slsqp
  /-- Trust-region interior point with exact Hessians. -/
  | trustConstr
  /-- Derivative-free, by linear approximations. -/
  | cobyla
  /-- Interior point with approximated Hessians. -/
  | ipopt
  /-- Interior point with exact Hessians. -/
  | ipoptExact
  deriving DecidableEq, Repr

/-- What tells two backends apart. -/
inductive BackendIdentity where
  | builtIn (method : Method)
  | custom (serial : Nat)
  deriving DecidableEq, Repr

abbrev Imports (α : Type) := String → Except (Error α) Unit

def Imports.only {α : Type} (installed : List String) : Imports α := fun name =>
  if name ∈ installed then .ok () else .error (.fault (.noModule name))

structure Backend (α : Type) where
  identity : BackendIdentity
  className : String
  /-- The name, which a declaration may lack or leave out. -/
  name : Option (Option String) := none
  description : Datum α := .text ""
  /-- The library that has to be installed, if any. -/
  library : Option (Datum α) := none
  objectiveTier : Tier := .valueOnly
  constraintTier : Tier := .valueOnly
  defaults : Options α := []
  /-- Other names for options. -/
  aliases : Dictionary String := []
  /-- Options that are not handed to the library. -/
  coreKeys : List String := ["feasibility_tolerance"]

namespace Backend

variable {α : Type}

def declaredName (b : Backend α) : Except (Error α) (Datum α) :=
  match b.name with
  | some name => .ok (Datum.ofText? name)
  | none => .error (.fault (.noField b.className "name"))

def label [Scalar α] (b : Backend α) : String := (Datum.ofText? b.name.join : Datum α).write

/-- Whether the backend's library can be imported. A library has to have a name that could be one,
and an import may fail in other ways than for want of the library. -/
def isAvailable (b : Backend α) (imports : Imports α) : Except (Error α) Bool :=
  match b.library with
  | none => .ok true
  | some (.text library) =>
    match library.toList with
    | [] => .error (.fault .emptyModule)
    | '.' :: _ => .error (.fault (.relativeModule library))
    | _ =>
      match imports library with
      | .ok () => .ok true
      | .error error => if error.kind.isA .importFailure then .ok false else .error error
  | some d => .error (.fault (.noField d.typeName "startswith"))

def fields (b : Backend α) : Except (Error α) (Fields α) := do
  let name ← b.declaredName
  return [("name", name), ("description", b.description), ("library", b.library.getD .nothing),
    ("objective_tier", .text b.objectiveTier.label),
    ("constraint_tier", .text b.constraintTier.label)]

def optionName (b : Backend α) (key : String) : String := (b.aliases.get? key).getD key

def tierError (b : Backend α) (role : String) (f : Function α) (required : Tier) : Error α :=
  match b.declaredName with
  | .ok name => .unsupportedTier name role f.name required f.tier
  | .error error => error

def checkFunction (b : Backend α) (role : String) (required : Tier) (f : Function α) :
    Except (Error α) Unit :=
  if f.supports required then .ok () else .error (b.tierError role f required)

/-- Refuses a problem with a function below the tier its role needs: the objective first, then the
constraints in order. -/
def checkProblem [Scalar α] (b : Backend α) (p : Problem α) : Except (Error α) Unit := do
  b.checkFunction "objective" b.objectiveTier p.objective
  p.constraints.forM fun c => b.checkFunction "constraint" b.constraintTier c.function

end Backend

namespace Method

variable {α : Type} [Scalar α]

def backend : Method → Backend α
  | slsqp => {
      identity := .builtIn slsqp
      className := "SLSQPBackend"
      name := some (some "scipy-slsqp")
      description := .text "SciPy SLSQP (sequential least squares programming)"
      library := some (.text "scipy")
      objectiveTier := .differentiable
      constraintTier := .differentiable
      defaults := [("maxiter", .whole 300), ("ftol", .number 1e-9)]
      aliases := [("max_iterations", "maxiter"), ("max_iter", "maxiter"), ("tol", "ftol")] }
  | trustConstr => {
      identity := .builtIn trustConstr
      className := "TrustConstrBackend"
      name := some (some "scipy-trust-constr")
      description := .text "SciPy trust-constr (trust-region interior point, exact Hessians)"
      library := some (.text "scipy")
      objectiveTier := .twiceDifferentiable
      constraintTier := .twiceDifferentiable
      defaults := [("maxiter", .whole 1000), ("gtol", .number 1e-8), ("xtol", .number 1e-10),
        ("initial_barrier_parameter", .number 1e-4)]
      aliases := [("max_iterations", "maxiter"), ("max_iter", "maxiter"), ("tol", "gtol")] }
  | cobyla => {
      identity := .builtIn cobyla
      className := "COBYLABackend"
      name := some (some "scipy-cobyla")
      description := .text "SciPy COBYLA (derivative-free, linear approximations)"
      library := some (.text "scipy")
      defaults := [("maxiter", .whole 10000), ("tol", .number 1e-8), ("catol", .number 1e-8)]
      aliases := [("max_iterations", "maxiter"), ("max_iter", "maxiter")] }
  | ipopt => {
      identity := .builtIn ipopt
      className := "IPOPTBackend"
      name := some (some "ipopt")
      description := .text "IPOPT interior point (limited-memory Hessian approximation)"
      library := some (.text "cyipopt")
      objectiveTier := .differentiable
      constraintTier := .differentiable
      defaults := [("max_iter", .whole 3000), ("tol", .number 1e-8), ("print_level", .whole 0)]
      aliases := [("maxiter", "max_iter"), ("max_iterations", "max_iter")] }
  | ipoptExact => {
      identity := .builtIn ipoptExact
      className := "IPOPTExactHessianBackend"
      name := some (some "ipopt-td")
      description := .text "IPOPT interior point (exact Hessians)"
      library := some (.text "cyipopt")
      objectiveTier := .twiceDifferentiable
      constraintTier := .twiceDifferentiable
      defaults := [("max_iter", .whole 3000), ("tol", .number 1e-8), ("print_level", .whole 0)]
      aliases := [("maxiter", "max_iter"), ("max_iterations", "max_iter")] }

def all : List Method := [slsqp, trustConstr, cobyla, ipopt, ipoptExact]

end Method

end NonlinearProgram
