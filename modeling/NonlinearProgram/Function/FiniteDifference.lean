import NonlinearProgram.Function.Basic

/-!
# Finite differences

A central difference compares a function a small step ahead of a point and as far behind it, one
variable at a time. `finiteDifferences` lifts any function to the differentiable tier by it.
-/

namespace NonlinearProgram

open Scalar

variable {α : Type} [Scalar α]

def stepIn (size j : Nat) (step : α) : List α :=
  (List.range size).map fun i => if i = j then step else 0.0

/-- The number by which a step changes a variable; nothing makes the variable no number. -/
def stepSize : Datum α → Except (Error α) α
  | .list _ => .error (.fault .sequence)
  | step => step.toEntry

/-- The distance between a step ahead and a step behind. A text is doubled as a text is, and a
difference is not divided by that. -/
def stepWidth : Datum α → Except (Error α) α
  | .flag b => .ok (if b then 2.0 else 0.0)
  | .whole n => Datum.scalarOfWhole (2 * n)
  | .number step => .ok (2.0 * step)
  | .text s => .error (.fault (.notOperands "/" "float" (Datum.text s : Datum α).typeName))
  | step => .error (.fault (.notOperands "*" "int" step.typeName))

/-- What comes of a function a step ahead of a point and a step behind it, and of the distance
between the two, for every variable. Only there does it show whether the step can be doubled. -/
def centralDifferences {β γ : Type} (f : List α → Except (Error α) β) (quotient : α → β → β → γ)
    (x : List α) (step : Datum α) : Except (Error α) (List γ) :=
  (List.range x.length).mapM fun j => do
    let shift := stepIn x.length j (← stepSize step)
    let ahead ← f (List.zipWith (· + ·) x shift)
    let behind ← f (List.zipWith (· - ·) x shift)
    return quotient (← stepWidth step) ahead behind

def quotient (width ahead behind : α) : α := (ahead - behind) / width

/-- The part of a function's value that belongs to the index of an output component: a single
number, where the index is whole. -/
def Function.component (f : Function α) (index : Datum α) (x : List α) :
    Except (Error α) (Tensor α) := do
  (Tensor.vector (← f.compute (.vector x))).part index

def quotients (width : α) (ahead behind : Tensor α) : Tensor α :=
  ⟨ahead.shape, List.zipWith (quotient width) ahead.entries behind.entries⟩

def differenceGradient (f : Function α) (x : List α) (index step : Datum α) :
    Except (Error α) (Tensor α) := do
  return .stack (← centralDifferences (f.component index) quotients x step)

def differenceRows (f : Function α) (x : List α) (index step : Datum α) :
    Except (Error α) (List (List α)) :=
  centralDifferences (fun y => f.gradient (.vector y) index)
    (fun width => List.zipWith (quotient width)) x step

def Function.finiteDifferences (f : Function α) (step : Datum α) : Function α where
  family := "FiniteDifferenceGradient"
  name := .text s!"{f.label} (finite differences)"
  inputSize := f.inputSize
  outputSize := f.outputSize
  outputSize_pos := f.outputSize_pos
  hooks := .differentiable
    (fun x => do return .tensor (.vector (← f.compute (.vector x))))
    (fun x index => do return .tensor (← differenceGradient f x index step))

end NonlinearProgram
