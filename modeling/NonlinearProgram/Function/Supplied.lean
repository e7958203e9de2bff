import NonlinearProgram.Function.Basic

/-!
# Functions from user code

Callables are the short way to a function: the tier is the highest that the given callables allow,
and an index is passed only where there is more than one output component. Hooks of a family of the
user's own always get the index.
-/

namespace NonlinearProgram

/-- User code evaluated at a point, with the index it was passed, if any. -/
abbrev Callable (α : Type) := List α → Option (Datum α) → Except (Error α) (Datum α)

namespace Function

variable {α : Type} [Scalar α]

/-- The function of some callables. Without a name it takes the name of its value callable, where
that has one. A Hessian asks for a gradient beside it. -/
def ofCallables (callableName : Option String) (compute : Callable α)
    (gradient hessian : Option (Callable α)) (inputSize outputSize name : Datum α) :
    Except (Error α) (Function α) :=
  let name := name.orText (callableName.getD "")
  let value : ValueHook α := fun x => return .datum (← compute x none)
  let single := outputSize.whole? == some 1
  let derivative (callable : Callable α) : DerivativeHook α := fun x index =>
    return .datum (← callable x (if single then none else some index))
  match gradient, hessian with
  | none, some _ => .error .hessianWithoutGradient
  | some gradient, some hessian =>
    declare "CallableTwiceDifferentiableFunction" name inputSize outputSize
      (.twiceDifferentiable value (derivative gradient) (derivative hessian))
  | some gradient, none =>
    declare "CallableDifferentiableFunction" name inputSize outputSize
      (.differentiable value (derivative gradient))
  | none, none => declare "CallableFunction" name inputSize outputSize (.valueOnly value)

def ofFamily (family : String) (tier : Tier) (compute gradient hessian : Callable α)
    (inputSize outputSize name : Datum α) : Except (Error α) (Function α) :=
  let value : ValueHook α := fun x => return .datum (← compute x none)
  let derivative (callable : Callable α) : DerivativeHook α := fun x index =>
    return .datum (← callable x (some index))
  declare family name inputSize outputSize <| match tier with
    | .valueOnly => .valueOnly value
    | .differentiable => .differentiable value (derivative gradient)
    | .twiceDifferentiable => .twiceDifferentiable value (derivative gradient) (derivative hessian)

end Function

end NonlinearProgram
