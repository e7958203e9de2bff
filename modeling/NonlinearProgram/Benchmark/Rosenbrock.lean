import NonlinearProgram.Function.Basic
import NonlinearProgram.Scalar.Pairwise

/-!
# The chained Rosenbrock function

The sum over neighbouring variables of `100 * (next - here ^ 2) ^ 2 + (1 - here) ^ 2`. Its minimum
is zero, where all variables are one. Every variable but the first and the last occurs in two terms,
so its derivatives add up two contributions.
-/

namespace NonlinearProgram.Rosenbrock

open Scalar

variable {α : Type} [Scalar α]

def gap (here next : α) : α := next - here * here

def terms : List α → List α
  | here :: next :: rest =>
    let deviation := 1.0 - here
    (100.0 * (gap here next * gap here next) + deviation * deviation) :: terms (next :: rest)
  | _ => []

def value (x : List α) : α := pairwiseSum (terms x)

def slopeHere (here next : α) : α := -400.0 * here * gap here next - 2.0 * (1.0 - here)

def slopeNext (here next : α) : α := 200.0 * gap here next

/-- The gradient from a variable on. The first argument is what the term before gives to the first
variable here, added where there is such a term. -/
def gradientFrom (carried : Option α) : List α → List α
  | here :: next :: rest =>
    let slope := slopeHere here next
    (match carried with
      | none => slope
      | some before => slope + before) :: gradientFrom (some (slopeNext here next)) (next :: rest)
  | [_] => [0.0 + carried.getD 0.0]
  | [] => []

def gradient (x : List α) : List α := gradientFrom none x

def curvature (here next : α) : α := 1200.0 * power here 2 - 400.0 * next + 2.0

/-- The entry of the Hessian in a row and a column. On the diagonal a variable has 200 from the term
before it and the curvature of the term after it. -/
def hessianEntry (x : List α) (i j : Nat) : α :=
  let before : α := if i = 0 then 0.0 else 0.0 + 200.0
  if i = j then
    match x[i]?, x[i + 1]? with
    | some here, some next => before + curvature here next
    | _, _ => before
  else if i + 1 = j then (x[i]?.map (-400.0 * ·)).getD 0.0
  else if j + 1 = i then (x[j]?.map (-400.0 * ·)).getD 0.0
  else 0.0

def hessian (x : List α) : Matrix α := Matrix.generate x.length x.length (hessianEntry x)

def isBelowTwo (dimension : Datum α) : Except (Error α) Bool :=
  match dimension.whole?, dimension with
  | some n, _ => .ok (decide (n < 2))
  | none, .number x => .ok (less x 2.0)
  | none, d => .error (.fault (.notOrdered "<" d.typeName "int"))

def function (dimension : Datum α) : Except (Error α) (Function α) := do
  if ← isBelowTwo dimension then throw .tooFewDimensions
  Function.declare "Rosenbrock" (.text "rosenbrock") dimension (.whole 1)
    (.twiceDifferentiable
      (fun x => .ok (.tensor (.vector [value x])))
      (fun x _ => .ok (.tensor (.vector (gradient x))))
      (fun x _ => .ok (.tensor (hessian x).toTensor)))

end NonlinearProgram.Rosenbrock
