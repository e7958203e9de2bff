import NonlinearProgram.Datum.Conversion

/-!
# Nested lists, tensors and matrices

Points, matrices and the results of user functions arrive as nested lists. A nested list whose
rows agree in shape is a tensor: its shape and its entries in order. A vector is a tensor with one
dimension. Matrices are lists of rows that carry their width, so that a matrix without rows still
has one.
-/

namespace NonlinearProgram

namespace Datum

variable {α : Type}

def commonShape : List Nat → List Nat → List Nat
  | m :: s, n :: t => if m = n then m :: commonShape s t else []
  | _, _ => []

mutual

/-- The shape all rows of a nested list agree on, and whether they agree all the way. -/
def outline : Datum α → List Nat × Bool
  | list items =>
    let inner := outlineItems items
    (items.length :: inner.1, inner.2)
  | _ => ([], true)
termination_by structural d => d

def outlineItems : List (Datum α) → List Nat × Bool
  | [] => ([], true)
  | [item] => outline item
  | item :: rest =>
    let first := outline item
    let others := outlineItems rest
    (commonShape first.1 others.1, first.2 && others.2 && first.1 == others.1)
termination_by structural items => items

end

mutual

def leaves : Datum α → List (Datum α)
  | list items => leavesOf items
  | d => [d]
termination_by structural d => d

def leavesOf : List (Datum α) → List (Datum α)
  | [] => []
  | item :: rest => leaves item ++ leavesOf rest
termination_by structural items => items

end

/-- The number that a leaf stands for; nothing stands for what is not a number. -/
def toEntry [Scalar α] : Datum α → Except (Error α) α
  | nothing => .ok Scalar.notANumber
  | d => d.toScalar

end Datum

/-- A shape and the entries in order. -/
structure Tensor (α : Type) where
  shape : List Nat
  entries : List α

namespace Tensor

variable {α : Type}

def depthLimit : Nat := 64

/-- The fault of a nested list whose rows do not make a tensor. Rows that agree as far as a tensor
goes are told to be too deep, whatever stands in them. -/
def misfit (shape : List Nat) (agree : Bool) : Option Fault :=
  if depthLimit < shape.length || (!agree && shape.length = depthLimit) then
    some (.tooDeep depthLimit)
  else if agree then none
  else some (.ragged shape)

/-- The tensor of a nested list, when its rows agree in shape and its leaves stand for numbers. -/
def ofDatum [Scalar α] (d : Datum α) : Except (Error α) (Tensor α) := do
  let (shape, agree) := d.outline
  if let some fault := misfit shape agree then throw (.fault fault)
  return ⟨shape, ← d.leaves.mapM Datum.toEntry⟩

def vector (xs : List α) : Tensor α := ⟨[xs.length], xs⟩

def size (t : Tensor α) : Nat := t.entries.length

def atLeastVector (t : Tensor α) : Tensor α :=
  match t.shape with
  | [] => ⟨[1], t.entries⟩
  | _ => t

/-- A single number counts as one row of one, a list as one row. -/
def atLeastMatrix (t : Tensor α) : Tensor α :=
  match t.shape with
  | [] => ⟨[1, 1], t.entries⟩
  | [n] => ⟨[1, n], t.entries⟩
  | _ => t

def rowsOf (width : Nat) : Nat → List α → List (List α)
  | 0, _ => []
  | count + 1, entries => entries.take width :: rowsOf width count (entries.drop width)

def capacity (shape : List Nat) : Nat := shape.foldr (· * ·) 1

def nest {β : Type} (leaf : α → Datum β) : List Nat → List α → Datum β
  | [], x :: _ => leaf x
  | [], [] => .list []
  | count :: shape, entries =>
    .list ((rowsOf (capacity shape) count entries).map (nest leaf shape))

def toDatum (t : Tensor α) : Datum α := nest .number t.shape t.entries

def map {β : Type} (f : α → β) (t : Tensor α) : Tensor β := ⟨t.shape, t.entries.map f⟩

def length (t : Tensor α) : Except (Error α) Nat :=
  match t.shape with
  | [] => .error (.fault .noLength)
  | count :: _ => .ok count

/-- The part of a tensor at a position that is not below zero. A flag that holds stands for the
whole tensor as the only row, and one that does not for no row. -/
def part (t : Tensor α) : Datum α → Except (Error α) (Tensor α)
  | .whole k =>
    match t.shape with
    | [] => .error (.fault .tooManyPositions)
    | count :: shape =>
      match if 0 ≤ k then (rowsOf (capacity shape) count t.entries)[k.toNat]? else none with
      | some entries => .ok ⟨shape, entries⟩
      | none => .error (.fault (.noEntry k.toNat count))
  | .flag true => .ok ⟨1 :: t.shape, t.entries⟩
  | .flag false => .ok ⟨0 :: t.shape, []⟩
  | _ => .error (.fault .noPosition)

/-- Tensors of one shape, one after another; without any there is an empty vector. -/
def stack : List (Tensor α) → Tensor α
  | [] => vector []
  | first :: rest =>
    ⟨(rest.length + 1) :: first.shape, (first :: rest).flatMap (·.entries)⟩

end Tensor

/-- What stands for a tensor: a nested list, or the tensor itself. Only a tensor can have no rows
and still a width. -/
inductive ArrayLike (α : Type) where
  | datum (d : Datum α)
  | tensor (t : Tensor α)

def ArrayLike.toTensor {α : Type} [Scalar α] : ArrayLike α → Except (Error α) (Tensor α)
  | datum d => Tensor.ofDatum d
  | tensor t => .ok t

structure Matrix (α : Type) where
  width : Nat
  rows : List (List α)

namespace Matrix

variable {α : Type}

def height (a : Matrix α) : Nat := a.rows.length

def entry? (a : Matrix α) (i j : Nat) : Option α := a.rows[i]?.bind (·[j]?)

def ofTensor? (t : Tensor α) : Option (Matrix α) :=
  match t.shape with
  | [height, width] => some ⟨width, Tensor.rowsOf width height t.entries⟩
  | _ => none

def toTensor (a : Matrix α) : Tensor α := ⟨[a.height, a.width], a.rows.flatten⟩

def transpose (a : Matrix α) : Matrix α :=
  ⟨a.height, (List.range a.width).map fun j => a.rows.filterMap (·[j]?)⟩

def map {β : Type} (f : α → β) (a : Matrix α) : Matrix β := ⟨a.width, a.rows.map (·.map f)⟩

def zip (f : α → α → α) (a b : Matrix α) : Matrix α :=
  ⟨a.width, List.zipWith (List.zipWith f) a.rows b.rows⟩

def generate (height width : Nat) (f : Nat → Nat → α) : Matrix α :=
  ⟨width, (List.range height).map fun i => (List.range width).map (f i)⟩

variable [Scalar α]

def zero (height width : Nat) : Matrix α :=
  ⟨width, List.replicate height (List.replicate width 0.0)⟩

def mulVector (a : Matrix α) (x : List α) : List α := a.rows.map (Scalar.dot · x)

def vectorMul (x : List α) (a : Matrix α) : List α := a.transpose.rows.map (Scalar.dot x ·)

def scale (c : α) (a : Matrix α) : Matrix α := a.map (c * ·)

def add (a b : Matrix α) : Matrix α := a.zip (· + ·) b

end Matrix

end NonlinearProgram
