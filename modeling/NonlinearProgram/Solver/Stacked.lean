import NonlinearProgram.Problem.Basic
import NonlinearProgram.Tensor.Broadcast

/-!
# Stacked constraints

The components of several constraints one under the other, each times a scale. Values, rows of the
Jacobian and weights all follow the same numbering: the components of a constraint come after those
of the constraints before it.
-/

namespace NonlinearProgram

open Scalar

namespace Tensor

variable {α : Type}

def entryAt (xs : List α) (k : Nat) : Except (Error α) α :=
  match xs[k]? with
  | some x => .ok x
  | none => .error (.fault (.noEntry k xs.length))

/-- What an array has at a position: a list an entry, any other array a part. -/
def partAt (t : Tensor α) (k : Nat) : Except (Error α) (Tensor α) :=
  match t.shape with
  | [_] => do return ⟨[], [← entryAt t.entries k]⟩
  | _ => t.part (.whole k)

def single (t : Tensor α) : Except (Error α) α :=
  match t.entries with
  | [x] => .ok x
  | entries => .error (.fault (.notSingle entries.length))

end Tensor

namespace Constraint

variable {α : Type} [Scalar α]

def stackedJacobian (constraints : List (Constraint α)) (x : Datum α) :
    Except (Error α) (Matrix α) := do
  let blocks ← constraints.mapM fun c => c.function.jacobian x
  let width ← (← Tensor.ofDatum x).length
  return ⟨width, blocks.flatMap (·.rows)⟩

/-- The Hessian of a component times a weight. A weight with more dimensions than a matrix gives a
product that no matrix takes. -/
def weighted (weight : Tensor α) (factor : α) (a : Matrix α) : Except (Error α) (Matrix α) :=
  if 2 < weight.shape.length then
    .error (.fault (.grownShape [a.height, a.width]
      (Tensor.padShape weight.shape.length [a.height, a.width])))
  else .ok (a.scale factor)

/-- The Hessian of a component: an output of a function, with the number of the component. -/
def hessianOf (x : Datum α) (component : (Function α × Nat) × Nat) : Except (Error α) (Matrix α) :=
  component.1.1.hessian x (.whole component.1.2)

section Sum

variable {m : Type → Type} [Monad m] [MonadExcept (Error α) m]
  (ask : (Function α × Nat) × Nat → m (Matrix α)) (weightOf : Nat → Except (Error α) (Tensor α))

/-- Adds the Hessian of one component times its weight, which is a single entry; where that is zero
the Hessian is not asked for. -/
def addHessian (total : Matrix α) (component : (Function α × Nat) × Nat) : m (Matrix α) := do
  let weight ← MonadExcept.ofExcept (weightOf component.2)
  let factor ← MonadExcept.ofExcept weight.single
  if equal factor 0.0 then return total
  else return total.add (← MonadExcept.ofExcept (weighted weight factor (← ask component)))

def addOutput (f : Function α) (sum : Matrix α × Nat) (i : Nat) : m (Matrix α × Nat) := do
  return (← addHessian ask weightOf sum.1 ((f, i), sum.2), sum.2 + 1)

def addConstraint (sum : Matrix α × Nat) (c : Constraint α) : m (Matrix α × Nat) :=
  (List.range c.size).foldlM (addOutput ask weightOf c.function) sum

/-- The sum of the Hessians of all components of some constraints, each times its weight. The
Hessians are asked of `ask`, and the components are numbered as they come. -/
def stackedHessian (constraints : List (Constraint α)) (x : Datum α) : m (Matrix α) := do
  let n ← MonadExcept.ofExcept (do (← Tensor.ofDatum x).length)
  return (← constraints.foldlM (addConstraint ask weightOf) (Matrix.zero n n, 0)).1

end Sum

def scaledWeight (scales weights : Tensor α) (k : Nat) : Except (Error α) (Tensor α) := do
  Tensor.broadcast (· * ·) (← weights.partAt k) (← scales.partAt k)

/-- The sum of the Hessians of all components of some constraints, each times a weight and a
scale. -/
def scaledHessian (constraints : List (Constraint α)) (scales weights : Tensor α) (x : Datum α) :
    Except (Error α) (Matrix α) :=
  stackedHessian (hessianOf x) (scaledWeight scales weights) constraints x

end Constraint

/-- Constraints with a scale for each of their components. -/
structure StackedConstraints (α : Type) [Scalar α] where
  constraints : List (Constraint α)
  scales : List α

namespace StackedConstraints

variable {α : Type} [Scalar α]

def values (s : StackedConstraints α) (x : Datum α) : Except (Error α) (List α) := do
  if s.constraints.isEmpty then return []
  Tensor.pairUp (· * ·) s.scales (← Constraint.stackedValues s.constraints x)

def jacobian (s : StackedConstraints α) (x : Datum α) : Except (Error α) (Matrix α) := do
  let a ← Constraint.stackedJacobian s.constraints x
  if s.constraints.isEmpty then return a
  return ⟨a.width, ← Tensor.pairUp (fun scale row => row.map (scale * ·)) s.scales a.rows⟩

/-- The sum of the scaled Hessians of all components, each times its weight. -/
def hessian (s : StackedConstraints α) (x : Datum α) (weights : Tensor α) :
    Except (Error α) (Matrix α) :=
  Constraint.scaledHessian s.constraints (.vector s.scales) weights x

end StackedConstraints

def Problem.stacked {α : Type} [Scalar α] (p : Problem α) : StackedConstraints α :=
  ⟨p.constraints, p.componentScales⟩

def Problem.stackedUnscaled {α : Type} [Scalar α] (p : Problem α) : StackedConstraints α :=
  ⟨p.constraints, List.replicate p.componentCount 1.0⟩

end NonlinearProgram
