import NonlinearProgram.Solver.Stacked

/-!
# Counted evaluation

An evaluator is handed to a library in place of a function and counts how often it is called. A
call counts whether or not it succeeds. Scales are an array of any shape: a list of them has one for
each component, and any other array is combined with the values as arrays are.
-/

namespace NonlinearProgram

/-- A callback and how often it has been called. -/
structure CountedEvaluator (α β : Type) where
  evaluate : Datum α → Except (Error α) β
  evaluations : Nat := 0

def CountedEvaluator.call {α β : Type} (c : CountedEvaluator α β) (x : Datum α) :
    CountedEvaluator α β × Except (Error α) β :=
  ({ c with evaluations := c.evaluations + 1 }, c.evaluate x)

variable {α : Type} [Scalar α]

namespace Function

def scalarValue (f : Function α) (x : Datum α) : Except (Error α) α := do
  Tensor.entryAt (← f.compute x) 0

def scalarGradient (f : Function α) (x : Datum α) : Except (Error α) (List α) :=
  f.gradient x (.whole 0)

def countedValue (f : Function α) : CountedEvaluator α α where
  evaluate := f.scalarValue

def countedGradient (f : Function α) : CountedEvaluator α (List α) where
  evaluate := f.scalarGradient

end Function

namespace Tensor

def asColumn (t : Tensor α) : Except (Error α) (Tensor α) :=
  match t.shape with
  | [] => .error (.fault .tooManyPositions)
  | count :: shape => .ok ⟨count :: 1 :: shape, t.entries⟩

end Tensor

namespace Constraint

def scaledValues (constraints : List (Constraint α)) (scales : Tensor α) (x : Datum α) :
    Except (Error α) (Tensor α) :=
  match scales.shape with
  | [_] => do return .vector (← (StackedConstraints.mk constraints scales.entries).values x)
  | _ =>
    if constraints.isEmpty then return .vector []
    else do Tensor.broadcast (· * ·) scales (.vector (← stackedValues constraints x))

def scaledJacobian (constraints : List (Constraint α)) (scales : Tensor α) (x : Datum α) :
    Except (Error α) (Tensor α) :=
  match scales.shape with
  | [_] => do return (← (StackedConstraints.mk constraints scales.entries).jacobian x).toTensor
  | _ => do
    let a ← stackedJacobian constraints x
    if constraints.isEmpty then return a.toTensor
    Tensor.broadcast (· * ·) (← scales.asColumn) a.toTensor

end Constraint

/-- Scaled constraints, of which the values and the Jacobian are counted. -/
structure ConstraintEvaluator (α : Type) [Scalar α] where
  values : CountedEvaluator α (Tensor α)
  jacobian : CountedEvaluator α (Tensor α)
  /-- The Hessian of the components times weights, which is not counted. -/
  hessian : Datum α → Tensor α → Except (Error α) (Matrix α)

def Constraint.counted (constraints : List (Constraint α)) (scales : Tensor α) :
    ConstraintEvaluator α where
  values := { evaluate := scaledValues constraints scales }
  jacobian := { evaluate := scaledJacobian constraints scales }
  hessian x weights := scaledHessian constraints scales weights x

end NonlinearProgram
