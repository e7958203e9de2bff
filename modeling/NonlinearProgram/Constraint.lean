import NonlinearProgram.Function.Basic
import NonlinearProgram.Interval

/-!
# Constraints

A constraint holds a function together with one interval and one scale per output component: the
`k`-th bound and the `k`-th scale belong to output component `k`.
-/

namespace NonlinearProgram

open Scalar

/-- What may stand where an interval belongs: an interval, or a value of some other type. -/
inductive BoundArgument (α : Type) [Scalar α] where
  | interval (bounds : Interval α)
  | other (typeName : String)

/-- What may stand where intervals for several places belong: a single interval, a list, or a value
of a type that has no items. -/
inductive BoundsArgument (α : Type) [Scalar α] where
  | single (bounds : Interval α)
  | several (items : List (BoundArgument α))
  | other (typeName : String)

/-- A function with one bound and one scale per output component. -/
structure Constraint (α : Type) [Scalar α] where
  function : Function α
  bounds : List (Interval α)
  scales : List α

variable {α : Type} [Scalar α]

namespace BoundArgument

def require (role : String) : BoundArgument α → Except (Error α) (Interval α)
  | interval bounds => .ok bounds
  | other typeName => .error (.notInterval role typeName)

end BoundArgument

namespace BoundsArgument

def items : BoundsArgument α → Except (Error α) (List (BoundArgument α))
  | several items => .ok items
  | single _ => .error (.fault (.notIterable "Interval"))
  | other typeName => .error (.fault (.notIterable typeName))

def itemsOrSingle : BoundsArgument α → Except (Error α) (List (BoundArgument α))
  | single bounds => .ok [.interval bounds]
  | bounds => bounds.items

end BoundsArgument

namespace Constraint

def checkScale (name : String) (scale : Datum α) : Except (Error α) α := do
  let scale ← scale.toReal
  if Interval.isScale scale then return scale else throw (.constraintScale name scale)

/-- The constraint of a function, bounds and scales. Lengths are checked first, then the bounds,
then the scales. -/
def make (f : Function α) (bounds : List (BoundArgument α)) (scales : List (Datum α)) :
    Except (Error α) (Constraint α) := do
  if bounds.length ≠ f.outputSize then
    throw (.dimensionMismatch s!"bounds of constraint '{f.label}'" f.outputSize bounds.length)
  if scales.length ≠ f.outputSize then
    throw (.dimensionMismatch s!"scales of constraint '{f.label}'" f.outputSize scales.length)
  let bounds ← bounds.mapM (·.require "Constraint")
  let scales ← scales.mapM (checkScale f.label)
  return ⟨f, bounds, scales⟩

def name (c : Constraint α) : Datum α := c.function.name

def size (c : Constraint α) : Nat := c.function.outputSize

/-- The first of the largest numbers of a list; `otherwise` when there are none. -/
def greatest (otherwise : α) : List α → α
  | [] => otherwise
  | first :: rest => rest.foldl larger first

def distances (bounds : List (Interval α)) (values : List α) : List α :=
  List.zipWith Interval.distance bounds values

def violation (c : Constraint α) (x : Datum α) : Except (Error α) α := do
  let values ← c.function.compute x
  return greatest 0.0 (distances c.bounds values)

def stackedValues (constraints : List (Constraint α)) (x : Datum α) :
    Except (Error α) (List α) := do
  let values ← constraints.mapM fun c => c.function.compute x
  return values.flatten

def boundsText (c : Constraint α) : String := ", ".intercalate (c.bounds.map Interval.text)

def signature (c : Constraint α) : String :=
  "Constraint(function=" ++ c.function.signature ++ ", bounds="
    ++ Text.tuple (c.bounds.map Interval.signature) ++ ", scales="
    ++ Text.tuple (c.scales.map shortest) ++ ")"

def scalesText (c : Constraint α) : String := ", ".intercalate (c.scales.map (general 6))

end Constraint

end NonlinearProgram
