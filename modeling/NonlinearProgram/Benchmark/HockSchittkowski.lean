import NonlinearProgram.Function.Basic

/-!
# The functions of Hock-Schittkowski problem 71

Minimise `x0 * x3 * (x0 + x1 + x2) + x2` where the product of the four variables is at least 25,
the sum of their squares is 40, and each lies between 1 and 5. The derivatives are in closed form.
-/

namespace NonlinearProgram.HockSchittkowski

open Scalar

variable {α : Type} [Scalar α]

def objectiveValue : List α → α
  | [a, b, c, d] => a * d * (a + b + c) + c
  | _ => notANumber

def objectiveGradient : List α → List α
  | [a, b, c, d] =>
    [a * d + d * (a + b + c), a * d, a * d + 1.0, a * (a + b + c)]
  | _ => []

def objectiveHessian : List α → List (List α)
  | [a, b, c, d] =>
    [[2.0 * d, d, d, 2.0 * a + b + c],
     [d, 0.0, 0.0, a],
     [d, 0.0, 0.0, a],
     [2.0 * a + b + c, a, a, 0.0]]
  | _ => []

def productValue : List α → α
  | [a, b, c, d] => a * b * c * d
  | _ => notANumber

def productGradient : List α → List α
  | [a, b, c, d] => [b * c * d, a * c * d, a * b * d, a * b * c]
  | _ => []

def productHessian : List α → List (List α)
  | [a, b, c, d] =>
    [[0.0, c * d, b * d, b * c],
     [c * d, 0.0, a * d, a * c],
     [b * d, a * d, 0.0, a * b],
     [b * c, a * c, a * b, 0.0]]
  | _ => []

def squaresValue (x : List α) : α := dot x x

def squaresGradient (x : List α) : List α := x.map (2.0 * ·)

def squaresHessian : List (List α) :=
  (Matrix.generate 4 4 fun i j => 2.0 * (if i = j then 1.0 else 0.0)).rows

def closedForm (family name : String) (value : List α → α) (gradient : List α → List α)
    (hessian : List α → List (List α)) : Function α where
  family := family
  name := .text name
  inputSize := 4
  outputSize := 1
  outputSize_pos := Nat.one_pos
  hooks := .twiceDifferentiable
    (fun x => .ok (.tensor (.vector [value x])))
    (fun x _ => .ok (.tensor (.vector (gradient x))))
    (fun x _ => .ok (.tensor (Matrix.mk 4 (hessian x)).toTensor))

def objective : Function α :=
  closedForm "HS71Objective" "x0 * x3 * (x0 + x1 + x2) + x2"
    objectiveValue objectiveGradient objectiveHessian

def product : Function α :=
  closedForm "HS71Product" "x0 * x1 * x2 * x3" productValue productGradient productHessian

def squares : Function α :=
  closedForm "HS71SumOfSquares" "x0^2 + x1^2 + x2^2 + x3^2" squaresValue squaresGradient
    fun _ => squaresHessian

end NonlinearProgram.HockSchittkowski
