import NonlinearProgram.Function.Basic

/-!
# Quadratic functions

A quadratic function is half the quadratic form of a symmetric matrix, plus an inner product, plus
a constant. Symmetry is tested up to rounding: an entry may differ from the one across the diagonal
by a small part of its size.
-/

namespace NonlinearProgram

/-- A symmetric matrix, the coefficients of the linear part, and the constant. -/
structure Quadratic (α : Type) where
  matrix : Matrix α
  linear : List α
  constant : α

namespace Quadratic

open Scalar

variable {α : Type} [Scalar α]

/-- Whether a number agrees with a second one up to rounding. Infinities agree when equal. -/
def isClose (a b : α) : Bool :=
  equal a b || (isFinite b && atMost (modulus (a - b)) (1e-8 + 1e-5 * modulus b))

def isSymmetric (a : Matrix α) : Bool :=
  (List.zipWith (List.zipWith isClose) a.rows a.transpose.rows).all (·.all id)

/-- The quadratic function of a nested list, a linear part, which is zero unless given, and a
constant, which is looked at last. -/
def ofDatum (matrix : Datum α) (linear : Option (Datum α)) (constant : Datum α) :
    Except (Error α) (Quadratic α) := do
  let t := (← Tensor.ofDatum matrix).atLeastMatrix
  match t.shape with
  | [height, width] =>
    if height ≠ width then
      throw (.dimensionMismatch "quadratic matrix columns" height width)
    let a : Matrix α := ⟨width, Tensor.rowsOf width height t.entries⟩
    if !isSymmetric a then throw .asymmetricMatrix
    match linear with
    | none => return ⟨a, List.replicate height 0.0, ← constant.toScalar⟩
    | some given =>
      let b := (← Tensor.ofDatum given).atLeastVector
      if b.shape = [height] then return ⟨a, b.entries, ← constant.toScalar⟩
      else throw (.dimensionMismatch "linear term of quadratic function" height b.size)
  | height :: width :: _ => throw (.dimensionMismatch "quadratic matrix columns" height width)
  | _ => throw (.fault .tooManyDimensions)

def value (f : Quadratic α) (x : List α) : α :=
  dot (Matrix.vectorMul (x.map (0.5 * ·)) f.matrix) x + dot f.linear x + f.constant

def slope (f : Quadratic α) (x : List α) : List α :=
  List.zipWith (· + ·) (f.matrix.mulVector x) f.linear

def toFunction (f : Quadratic α) (name : Datum α) : Except (Error α) (Function α) :=
  Function.declare "NumericQuadraticFunction" (name.orText "quadratic")
    (.whole f.matrix.height) (.whole 1)
    (.twiceDifferentiable
      (fun x => .ok (.tensor (.vector [f.value x])))
      (fun x _ => .ok (.tensor (.vector (f.slope x))))
      (fun _ _ => .ok (.tensor f.matrix.toTensor)))

end Quadratic

end NonlinearProgram
