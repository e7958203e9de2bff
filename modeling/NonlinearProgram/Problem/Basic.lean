import NonlinearProgram.Constraint

/-!
# Constrained nonlinear programs

A problem minimises an objective subject to bounds on its variables and to constraints whose
components lie in intervals. The components of all constraints are numbered through, in the order
in which the constraints were added.
-/

namespace NonlinearProgram

open Scalar

/-- An objective, bounds on its variables, constraints, and perhaps a starting point. A frozen
problem no longer changes. -/
structure Problem (α : Type) [Scalar α] where
  objective : Function α
  argumentNames : List String
  argumentBounds : List (Interval α)
  startingPoint : Option (List α)
  constraints : List (Constraint α)
  frozen : Bool

namespace Problem

variable {α : Type} [Scalar α]

def inputSize (p : Problem α) : Nat := p.objective.inputSize

def componentCount (p : Problem α) : Nat := p.constraints.foldr (fun c rest => c.size + rest) 0

def minimumTier (p : Problem α) : Tier :=
  p.constraints.foldl (fun tier c => tier.lower c.function.tier) p.objective.tier

def componentBounds (p : Problem α) : List (Interval α) := p.constraints.flatMap (·.bounds)

def componentScales (p : Problem α) : List α := p.constraints.flatMap (·.scales)

def scaledBounds (p : Problem α) : Except (Error α) (List (Interval α)) := do
  let bounds ← p.constraints.mapM fun c => (c.bounds.zip c.scales).mapM fun (i, s) => i.scaled s
  return bounds.flatten

def ends (bounds : List (Interval α)) : List α × List α :=
  (bounds.map (·.lower), bounds.map (·.upper))

/-- The starting point, or else the point of the variables' bounds closest to the origin. -/
def initialPoint (p : Problem α) : List α :=
  p.startingPoint.getD (p.argumentBounds.map (·.project 0.0))

def constraintValues (p : Problem α) (x : Datum α) : Except (Error α) (List α) :=
  Constraint.stackedValues p.constraints x

/-- How far the coordinates of a point lie outside the bounds of their variables, as far as there
are both. -/
def argumentDistances (p : Problem α) (x : Datum α) : Except (Error α) (List α) := do
  let t ← Tensor.ofDatum x
  match t.shape with
  | [] => throw (.fault .noLength)
  | [_] => return Constraint.distances p.argumentBounds t.entries
  | count :: _ =>
    if count = 0 || p.argumentBounds.isEmpty then return [] else throw (.fault .nestedEntry)

/-- The largest violation of a bound or a constraint component. -/
def constraintViolation (p : Problem α) (x : Datum α) : Except (Error α) α := do
  let outside ← p.argumentDistances x
  let violations ← p.constraints.mapM (·.violation x)
  return Constraint.greatest 0.0 (outside ++ violations)

/-- Whether no violation exceeds the tolerance. -/
def isFeasible (p : Problem α) (x : Datum α) (tolerance : α) : Except (Error α) Bool := do
  return atMost (← p.constraintViolation x) tolerance

/-- The bounds of the variables and components, each with its value at a point, as far as there are
both. -/
def boundedValues (p : Problem α) (x : Datum α) : Except (Error α) (List (Interval α × α)) := do
  let t ← Tensor.ofDatum x
  let components ← p.constraints.mapM fun c => do
    return c.bounds.zip (← c.function.compute x)
  return p.argumentBounds.zip t.entries ++ components.flatten

/-- Whether a violation is how far a number lies outside. It is not where nothing is violated, nor
where what is not a number violates its bounds first. -/
def isMeasured (p : Problem α) (x : Datum α) (violation : α) : Except (Error α) Bool := do
  let values ← p.boundedValues x
  return (values.find? fun (i, v) => equal (i.distance v) violation).any fun (i, v) => i.isOutside v

/-- Whether no violation exceeds what is given as the tolerance. An array of tolerances has an
answer for each of them, where the violation is how far a number lies outside. -/
def isFeasibleWithin (p : Problem α) (x tolerance : Datum α) :
    Except (Error α) (Tensor Bool) := do
  let violation ← p.constraintViolation x
  match tolerance with
  | .list _ =>
    if !(← p.isMeasured x violation) then throw (.fault (.notOrdered "<=" "float" "list"))
    let t ← Tensor.ofDatum tolerance
    if tolerance.leaves.any (·.given?.isNone) then
      throw (.fault (.notOrdered "<=" "float" "NoneType"))
    return t.map (atMost violation)
  | tolerance => return ⟨[], [atMost violation (← tolerance.toReal)]⟩

def constraintLine (position : Nat) (c : Constraint α) : String :=
  s!"    [{position}] {c.function.text} in {c.boundsText} (scales: {c.scalesText})"

def pointText (x : List α) : String := "[" ++ ", ".intercalate (x.map shortest) ++ "]"

def text (p : Problem α) : String :=
  let bounds := List.zipWith (fun name i => name ++ " in " ++ i.text)
    p.argumentNames p.argumentBounds
  let start := p.startingPoint.toList.map fun x => "  Starting point: " ++ pointText x
  let constraints :=
    if p.constraints.isEmpty then []
    else s!"  Constraints ({p.constraints.length}):"
      :: p.constraints.zipIdx.map fun (c, i) => constraintLine i c
  "\n".intercalate
    (s!"Problem: minimize {p.objective.text}"
      :: ("  Argument bounds: " ++ ", ".intercalate bounds)
      :: (start ++ constraints))

end Problem

end NonlinearProgram
