import NonlinearProgram.Function.FiniteDifference
import NonlinearProgram.Tensor.Broadcast

/-!
# Derivative checks

A check compares an analytic derivative with central differences. Its error is the largest
difference of two entries, relative to the largest analytic entry where that is above one.
-/

namespace NonlinearProgram

open Scalar

/-- The outcome of comparing an analytic derivative with its estimate. -/
structure DerivativeCheck (α : Type) where
  functionName : Datum α
  index : Datum α
  maxError : α
  tolerance : Datum α
  analytic : Tensor α
  approximate : Tensor α

variable {α : Type} [Scalar α]

def DerivativeCheck.passed (check : DerivativeCheck α) : Except (Error α) Bool := do
  return atMost check.maxError (← check.tolerance.toReal)

def largest : List α → Except (Error α) α
  | [] => .error (.fault .noLargest)
  | first :: rest => .ok (rest.foldl peak first)

/-- The largest difference of two entries, relative to the largest analytic one above one. -/
def relativeError (analytic approximate : Tensor α) : Except (Error α) α := do
  if analytic.entries.isEmpty then return 0.0
  let scale := larger 1.0 (← largest (analytic.entries.map modulus))
  let differences ← Tensor.broadcast (· - ·) analytic approximate
  return (← largest (differences.entries.map modulus)) / scale

/-- A finished check and the line that reports it. -/
def DerivativeCheck.conclude (order : String) (f : Function α) (index tolerance : Datum α)
    (analytic approximate : Tensor α) : Attempt α (DerivativeCheck α) := do
  let error ← relativeError analytic approximate
  Logged.report .debug
    (s!"{order} check '{f.label}'[{index.write}]: error=" ++ exponential 3 error)
  return ⟨f.name, index, error, tolerance, analytic, approximate⟩

def checkGradient (f : Function α) (x index step tolerance : Datum α) :
    Attempt α (DerivativeCheck α) := do
  let analytic ← f.gradient x index
  let point ← f.checkArgument x
  let approximate ← differenceGradient f point index step
  DerivativeCheck.conclude "Gradient" f index tolerance (.vector analytic) approximate

/-- Compares a Hessian with central differences of the gradient. The differences by one variable
are a column of the Hessian, so they are transposed; where there are no variables there is no
column either. -/
def checkHessian (f : Function α) (x index step tolerance : Datum α) :
    Attempt α (DerivativeCheck α) := do
  let analytic ← f.hessian x index
  let point ← f.checkArgument x
  let columns ← differenceRows f point index step
  let approximate :=
    if columns.isEmpty then .vector []
    else (Matrix.mk f.inputSize columns).transpose.toTensor
  DerivativeCheck.conclude "Hessian" f index tolerance analytic.toTensor approximate

def DerivativeCheck.demand : List (DerivativeCheck α) → Except (Error α) Unit
  | [] => .ok ()
  | check :: rest => do
    if ← check.passed then demand rest
    else
      let tolerance ← check.tolerance.toReal
      throw (.badGradient check.functionName.write check.index check.maxError tolerance)

/-- Checks the gradients of all output components and, where there are any, their Hessians. The
first failing check is the error, after all of them have been made. -/
def assertGradient (f : Function α) (x step tolerance : Datum α) : Attempt α Unit := do
  let components := (List.range f.outputSize).map fun (i : Nat) => (Datum.whole i : Datum α)
  let gradients ← components.mapM fun i => checkGradient f x i step tolerance
  let hessians ←
    if f.supports .twiceDifferentiable then
      components.mapM fun i => checkHessian f x i step tolerance
    else pure []
  DerivativeCheck.demand (gradients ++ hessians)

end NonlinearProgram
