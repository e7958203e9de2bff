import NonlinearProgram.Options

/-!
# Priority presets

Most users touch few solver options. A priority says what matters, and each built-in backend has
options of its own for it: robustness asks for more iterations, speed for loose and accuracy for
tight tolerances, balanced for the middle ground.
-/

namespace NonlinearProgram

/-- What a user wants of a solver. -/
inductive Priority where
  | robustness
  | speed
  | accuracy
  | balanced
  deriving DecidableEq, Repr

namespace Priority

def name : Priority → String
  | robustness => "robustness"
  | speed => "speed"
  | accuracy => "accuracy"
  | balanced => "balanced"

def all : List Priority := [robustness, speed, accuracy, balanced]

def ofName? (name : String) : Option Priority := all.find? (·.name == name)

def ofDatum? {α : Type} : Datum α → Option Priority
  | .text name => ofName? name
  | _ => none

theorem ofName?_name (p : Priority) : ofName? p.name = some p := by cases p <;> rfl

theorem map_name_all : all.map name = priorityNames := rfl

end Priority

namespace Preset

variable {α : Type} [Scalar α]

def sequentialQuadratic : Priority → Options α
  | .robustness => [("maxiter", .whole 500), ("ftol", .number 1e-8)]
  | .speed => [("maxiter", .whole 100), ("ftol", .number 1e-6)]
  | .accuracy => [("maxiter", .whole 1000), ("ftol", .number 1e-12)]
  | .balanced => [("maxiter", .whole 300), ("ftol", .number 1e-9)]

def trustRegion : Priority → Options α
  | .robustness => [("maxiter", .whole 3000), ("gtol", .number 1e-8), ("xtol", .number 1e-10)]
  | .speed => [("maxiter", .whole 500), ("gtol", .number 1e-6), ("xtol", .number 1e-8)]
  | .accuracy => [("maxiter", .whole 5000), ("gtol", .number 1e-10), ("xtol", .number 1e-12)]
  | .balanced => [("maxiter", .whole 1000), ("gtol", .number 1e-8), ("xtol", .number 1e-10)]

def linearApproximation : Priority → Options α
  | .robustness => [("maxiter", .whole 20000), ("tol", .number 1e-8), ("catol", .number 1e-8)]
  | .speed => [("maxiter", .whole 2000), ("tol", .number 1e-5), ("catol", .number 1e-7)]
  | .accuracy => [("maxiter", .whole 50000), ("tol", .number 1e-10), ("catol", .number 1e-10)]
  | .balanced => [("maxiter", .whole 10000), ("tol", .number 1e-8), ("catol", .number 1e-8)]

def interiorPoint : Priority → Options α
  | .robustness =>
    [("max_iter", .whole 5000), ("tol", .number 1e-8), ("mu_strategy", .text "monotone")]
  | .speed => [("max_iter", .whole 500), ("tol", .number 1e-6), ("mu_strategy", .text "adaptive")]
  | .accuracy =>
    [("max_iter", .whole 5000), ("tol", .number 1e-10), ("acceptable_tol", .number 1e-8)]
  | .balanced => [("max_iter", .whole 3000), ("tol", .number 1e-8)]

def ofBackend? : String → Option (Priority → Options α)
  | "scipy-slsqp" => some sequentialQuadratic
  | "scipy-trust-constr" => some trustRegion
  | "scipy-cobyla" => some linearApproximation
  | "ipopt" | "ipopt-td" => some interiorPoint
  | _ => none

/-- The options that a priority stands for with a backend. A backend without presets keeps its
defaults, which is worth a warning. -/
def options (backend priority : Datum α) : Attempt α (Options α) :=
  match Priority.ofDatum? priority with
  | none => throw (.unknownPriority priority)
  | some chosen => do
    let name ← backend.key?
    match name.bind ofBackend? with
    | some preset => return preset chosen
    | none => do
      Logged.report .warning
        (s!"No '{chosen.name}' preset for backend '{backend.write}', using its defaults")
      return []

end Preset

end NonlinearProgram
