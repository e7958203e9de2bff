import NonlinearProgram.Result
import NonlinearProgram.Tensor.Written

/-!
# Written results

A result is written as its variant with all its fields by name, in the order of the fields.
-/

namespace NonlinearProgram

open Scalar

variable {α : Type} [Scalar α]

def Tensor.signatureOf (t : Option (Tensor α)) : String :=
  (t.map Tensor.signature).getD (Datum.quoted (.nothing : Datum α))

namespace Result

def solutionTexts (s : Solution α) : List (String × String) :=
  [("x", Tensor.signatureOf s.point), ("value", shortest s.value),
    ("constraint_values", Tensor.signatureOf s.constraintValues),
    ("multipliers", Tensor.signatureOf s.multipliers), ("n_iterations", s.iterations.quoted),
    ("n_function_evals", s.functionEvals.quoted), ("n_gradient_evals", s.gradientEvals.quoted)]

def parts : Result α → List (String × String)
  | solved s => solutionTexts s
  | solvedWithWarnings s warnings =>
    solutionTexts s ++ [("warnings", Text.tuple (warnings.map Text.quoted))]
  | noSolution reason => [("reason", reason.quoted)]
  | failed message => [("message", message.quoted)]

def signature (r : Result α) : String :=
  r.typeName ++ "(" ++ ", ".intercalate (r.parts.map fun (name, value) => name ++ "=" ++ value)
    ++ ")"

end Result

end NonlinearProgram
