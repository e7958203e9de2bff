import NonlinearProgram.Function.Basic

/-!
# Affine functions

An affine function multiplies its argument by a matrix and adds an offset. Its gradients are the
rows of the matrix, and its Hessians are zero.
-/

namespace NonlinearProgram

/-- A matrix and an offset with one entry per row. -/
structure Affine (α : Type) where
  matrix : Matrix α
  offset : List α

namespace Affine

variable {α : Type} [Scalar α]

/-- The affine function of a nested list and an offset, which is zero unless given. A single number
or a flat list stands for a matrix of one row. -/
def ofDatum (matrix : Datum α) (offset : Option (Datum α)) : Except (Error α) (Affine α) := do
  let t ← Tensor.ofDatum matrix
  match Matrix.ofTensor? t.atLeastMatrix with
  | none => throw (.fault .tooManyDimensions)
  | some a =>
    match offset with
    | none => return ⟨a, List.replicate a.height 0.0⟩
    | some given =>
      let b := (← Tensor.ofDatum given).atLeastVector
      if b.shape = [a.height] then return ⟨a, b.entries⟩
      else throw (.dimensionMismatch "offset of linear function" a.height b.size)

def value (f : Affine α) (x : List α) : List α :=
  List.zipWith (· + ·) (f.matrix.mulVector x) f.offset

omit [Scalar α] in
/-- The part of the matrix that belongs to the index of an output component: a row, where the index
is whole. -/
def row (f : Affine α) (index : Datum α) : Except (Error α) (Tensor α) :=
  f.matrix.toTensor.part index

def toFunction (f : Affine α) (name : Datum α) : Except (Error α) (Function α) :=
  Function.declare "NumericLinearFunction" (name.orText "linear")
    (.whole f.matrix.width) (.whole f.matrix.height)
    (.twiceDifferentiable
      (fun x => .ok (.tensor (.vector (f.value x))))
      (fun _ index => do return .tensor (← f.row index))
      (fun _ _ => .ok (.tensor (Matrix.zero f.matrix.width f.matrix.width).toTensor)))

end Affine

end NonlinearProgram
