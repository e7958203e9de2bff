import NonlinearProgram.Preset
import NonlinearProgram.Problem.Assembly
import NonlinearProgram.Result
import NonlinearProgram.Solver.Backend

/-!
# Solvers

A solver is a backend bound to a problem. Binding checks the tiers and settles the options: those
of a preset replace the defaults, and explicit ones replace both. The problem is frozen last, so a
refused binding leaves it open.
-/

namespace NonlinearProgram

/-- A backend bound to a problem, with its options and the result of its last run. -/
structure Solver (α : Type) [Scalar α] where
  backend : Backend α
  problem : Problem α
  parameters : Options α
  result : Option (Result α) := none

namespace Solver

variable {α : Type} [Scalar α]

/-- The options of a backend under a preset and explicit options, by the names its library uses. -/
def mergeOptions (b : Backend α) (preset explicit : Options α) : Options α :=
  (((Dictionary.ofPairs b.defaults).update preset).update explicit).rename b.optionName

def presetOptions (b : Backend α) : Option (Datum α) → Attempt α (Options α)
  | none => return []
  | some priority => do Preset.options (← b.declaredName) priority

/-- Binds a backend to a problem, which is frozen by it. -/
def bind (b : Backend α) (p : Problem α) (explicit : Options α)
    (priority : Option (Datum α)) : Attempt α (Solver α) := do
  b.checkProblem p
  let preset ← presetOptions b priority
  return ⟨b, p.freeze, mergeOptions b preset explicit, none⟩

def feasibilityTolerance (s : Solver α) : Except (Error α) α :=
  match s.parameters.get? "feasibility_tolerance" with
  | none => .ok 1e-6
  | some value => value.toScalar

def libraryOptions (s : Solver α) (exclude : List String) : Options α :=
  (s.parameters.without s.backend.coreKeys).without exclude

/-- The solver, its options in the order of their names, its problem and its last result. -/
def text (s : Solver α) : String :=
  let sorted := s.parameters.mergeSort fun a b => decide (a.1 ≤ b.1)
  let options :=
    if sorted.isEmpty then []
    else "  Parameters:" :: sorted.map fun (key, value) => "    " ++ key ++ ": " ++ value.write
  let result := s.result.toList.map fun r => "  Last result: " ++ r.tag
  "\n".intercalate
    (("Solver: " ++ s.backend.label) :: (options ++ (s.problem.text :: result)))

end Solver

end NonlinearProgram
