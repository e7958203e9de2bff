import NonlinearProgram.Problem.Basic

/-!
# Assembling a problem

Every step checks its arguments before it changes anything, so a refused step leaves no trace, and
a frozen problem refuses every change.
-/

namespace NonlinearProgram

namespace Problem

variable {α : Type} [Scalar α]

/-- A problem without constraints whose variables are unbounded. Unless named, variables are
numbered from zero. -/
def create (objective : Function α) (names : Option (Datum α)) :
    Except (Error α) (Problem α) := do
  let n := objective.inputSize
  if objective.outputSize ≠ 1 then
    throw (.dimensionMismatch s!"output of objective '{objective.label}'" 1 objective.outputSize)
  let names ← (names.getD (.texts ((List.range n).map fun i => s!"x{i}"))).sized
  if names.length ≠ n then throw (.dimensionMismatch "argument names" n names.length)
  return {
    objective := objective
    argumentNames := names.map (·.write)
    argumentBounds := List.replicate n Interval.unbounded
    startingPoint := none
    constraints := []
    frozen := false }

def checkMutable (p : Problem α) : Except (Error α) Unit :=
  if p.frozen then .error .problemFrozen else .ok ()

def setArgumentBound (p : Problem α) (index : Datum α) (bound : BoundArgument α) :
    Except (Error α) (Problem α) := do
  p.checkMutable
  if !(← index.isWithin p.inputSize) then
    throw (.indexOutOfRange "variable" index p.inputSize)
  let i ← bound.require "Argument"
  let position ← Datum.itemAt (List.range p.argumentBounds.length) index
  return { p with argumentBounds := p.argumentBounds.set position i }

def setArgumentBounds (p : Problem α) (bounds : BoundsArgument α) :
    Except (Error α) (Problem α) := do
  p.checkMutable
  let bounds ← bounds.items
  if bounds.length ≠ p.inputSize then
    throw (.dimensionMismatch "argument bounds" p.inputSize bounds.length)
  let intervals ← bounds.mapM (·.require "Argument")
  return { p with argumentBounds := intervals }

def setAllArgumentBounds (p : Problem α) (bound : BoundArgument α) :
    Except (Error α) (Problem α) :=
  p.setArgumentBounds (.several (List.replicate p.inputSize bound))

def setStartingPoint (p : Problem α) (x : Datum α) : Except (Error α) (Problem α) := do
  p.checkMutable
  let t ← Tensor.ofDatum x
  if t.shape ≠ [p.inputSize] then
    throw (.dimensionMismatch "starting point" p.inputSize t.size)
  return { p with startingPoint := some t.entries }

/-- The constraint that a function, bounds and scales would add, all checks made. Scales are one
unless given. -/
def newConstraint (p : Problem α) (f : Function α) (bounds : BoundsArgument α)
    (scales : Option (Datum α)) : Except (Error α) (Constraint α) := do
  p.checkMutable
  if f.inputSize ≠ p.inputSize then
    throw (.dimensionMismatch s!"input of constraint '{f.label}'" p.inputSize f.inputSize)
  let items ← bounds.itemsOrSingle
  let scales ← (scales.getD (.vector (List.replicate items.length 1.0))).items
  let scales ← scales.mapM (·.toScalar)
  Constraint.make f items (scales.map .number)

def append (p : Problem α) (c : Constraint α) : Problem α :=
  { p with constraints := p.constraints ++ [c] }

def addConstraint (p : Problem α) (f : Function α) (bounds : BoundsArgument α)
    (scales : Option (Datum α)) : Attempt α (Problem α × Nat) := do
  let c ← p.newConstraint f bounds scales
  let position := p.constraints.length
  Logged.report .debug
    (s!"Added constraint {position}: {c.name.write} with bounds "
      ++ (Datum.texts (c.bounds.map Interval.text) : Datum α).write)
  return (p.append c, position)

def freeze (p : Problem α) : Problem α := { p with frozen := true }

end Problem

end NonlinearProgram
