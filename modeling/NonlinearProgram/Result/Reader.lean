import NonlinearProgram.Result

/-!
# Reading results

A result may be made from data by name: the name of a variant, and the fields that this variant has.
Counts are zero and texts empty unless given.
-/

namespace NonlinearProgram

variable {α : Type} [Scalar α]

/-- The solution in some data, for a variant with the name of its type. -/
def Solution.ofFields (family : String) (d : Datum α) : Except (Error α) (Solution α) := do
  let part (name : String) : Datum α := (d.field? name).getD .nothing
  let point ← (d.field? "x").mapM Datum.numeric
  let value ← (d.field? "value").mapM Datum.numeric
  let constraintValues ← (part "constraint_values").numeric
  let multipliers ← (part "multipliers").numeric
  if (d.field? "warnings").isSome && family = "Solved" then
    throw (.fault (.surplusArgument (family ++ ".__init__") "warnings"))
  let missing := [("x", point), ("value", value)].filter fun part => part.2.isNone
  if !missing.isEmpty then
    throw (.fault (.missingArguments (family ++ ".__init__") (missing.map (·.1))))
  let s ← Solution.ofData (point.getD .nothing) (value.getD .nothing) constraintValues multipliers
  let count (name : String) : Datum α := (d.field? name).getD (.whole 0)
  return { s with
    iterations := count "n_iterations"
    functionEvals := count "n_function_evals"
    gradientEvals := count "n_gradient_evals" }

namespace Result

/-- The result in some data. What is no name of another variant is a failure. -/
def ofDatum (d : Datum α) : Except (Error α) (Result α) := do
  let variant ← d.require "result"
  if variant.isText "solved" then return .solved (← Solution.ofFields "Solved" d)
  else if variant.isText "solved_with_warnings" then
    let s ← Solution.ofFields "SolvedWithWarnings" d
    withWarnings s ((← ((d.field? "warnings").getD (.list [])).items).map (·.write))
  else if variant.isText "no_solution" then
    return .noSolution ((d.field? "reason").getD (.text ""))
  else return .failed ((d.field? "message").getD (.text ""))

end Result

end NonlinearProgram
