import NonlinearProgram.Solver.Stacked

/-!
# Constraint blocks

Minimisers do not take intervals. One kind takes a block of components that have to be zero and a
block of components that must not be negative; another takes all components with their lower and
upper ends. In the first form a component with a single admissible value is an equality, unless
equalities are to be split, and every other finite end is one inequality.
-/

namespace NonlinearProgram

open Scalar

/-- What is asked of the components of a block. -/
inductive Sense (α : Type) where
  | zero
  | nonnegative
  | between (lower upper : List α)

/-- Components that are evaluated together, with the derivatives that come with them. -/
structure ConstraintBlock (α : Type) where
  sense : Sense α
  value : Datum α → Except (Error α) (List α)
  jacobian : Option (Datum α → Except (Error α) (Matrix α))
  /-- The Hessian of the components times weights. -/
  hessian : Option (Datum α → Tensor α → Except (Error α) (Matrix α))

def pick {β : Type} (positions : List Nat) (xs : List β) : List β := positions.filterMap (xs[·]?)

def positionsOf {β : Type} (property : β → Bool) (xs : List β) : List Nat :=
  (List.range xs.length).filter fun k => (xs[k]?).any property

/-- Which components are equalities, and which have a lower or an upper end to respect. -/
structure Sides where
  equal : List Nat
  lower : List Nat
  upper : List Nat

namespace Sides

variable {α : Type} [Scalar α]

def ofBounds (split : Bool) (bounds : List (Interval α)) : Sides where
  equal := if split then [] else positionsOf Interval.isEquality bounds
  lower := positionsOf (fun i => (split || !i.isEquality) && isFinite i.lower) bounds
  upper := positionsOf (fun i => (split || !i.isEquality) && isFinite i.upper) bounds

variable (sides : Sides) (stack : StackedConstraints α) (bounds : List (Interval α))

def equalityValue (x : Datum α) : Except (Error α) (List α) := do
  let values ← stack.values x
  return List.zipWith (· - ·) (pick sides.equal values)
    (pick sides.equal (bounds.map (·.lower)))

def equalityJacobian (x : Datum α) : Except (Error α) (Matrix α) := do
  let a ← stack.jacobian x
  return ⟨a.width, pick sides.equal a.rows⟩

/-- How far the values are above their lower ends, and then how far below their upper ends. -/
def inequalityValue (x : Datum α) : Except (Error α) (List α) := do
  let values ← stack.values x
  return List.zipWith (· - ·) (pick sides.lower values) (pick sides.lower (bounds.map (·.lower)))
    ++ List.zipWith (· - ·) (pick sides.upper (bounds.map (·.upper))) (pick sides.upper values)

def inequalityJacobian (x : Datum α) : Except (Error α) (Matrix α) := do
  let a ← stack.jacobian x
  return ⟨a.width, pick sides.lower a.rows ++ (pick sides.upper a.rows).map (·.map (-·))⟩

def equalityBlock? (withJacobian : Bool) : Option (ConstraintBlock α) :=
  if sides.equal.isEmpty then none
  else some {
    sense := .zero
    value := sides.equalityValue stack bounds
    jacobian := if withJacobian then some (sides.equalityJacobian stack) else none
    hessian := none }

def inequalityBlock? (withJacobian : Bool) : Option (ConstraintBlock α) :=
  if sides.lower.isEmpty && sides.upper.isEmpty then none
  else some {
    sense := .nonnegative
    value := sides.inequalityValue stack bounds
    jacobian := if withJacobian then some (sides.inequalityJacobian stack) else none
    hessian := none }

end Sides

namespace Problem

variable {α : Type} [Scalar α]

def sidedBlocks (p : Problem α) (withJacobian split : Bool) :
    Except (Error α) (List (ConstraintBlock α)) := do
  let bounds ← p.scaledBounds
  let sides := Sides.ofBounds split bounds
  return (sides.equalityBlock? p.stacked bounds withJacobian).toList
    ++ (sides.inequalityBlock? p.stacked bounds withJacobian).toList

/-- The scaled constraints as one block with lower and upper ends, if there are any. -/
def boundedBlocks (p : Problem α) : Except (Error α) (List (ConstraintBlock α)) := do
  if p.constraints.isEmpty then return []
  let (lower, upper) := Problem.ends (← p.scaledBounds)
  return [{
    sense := .between lower upper
    value := p.stacked.values
    jacobian := some p.stacked.jacobian
    hessian := some p.stacked.hessian }]

/-- The bounds of the variables, unless no end of any of them is finite. -/
def argumentBox (p : Problem α) : Option (List α × List α) :=
  let (lower, upper) := Problem.ends p.argumentBounds
  if lower.any isFinite || upper.any isFinite then some (lower, upper) else none

end Problem

end NonlinearProgram
