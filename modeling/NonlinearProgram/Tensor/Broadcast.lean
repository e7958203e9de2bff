import NonlinearProgram.Tensor

/-!
# Combining tensors entry by entry

Lists of one length are combined item by item, and a single item on either side serves all items of
the other. Tensors are combined in the same way in each of their dimensions, which are aligned at
the last one.
-/

namespace NonlinearProgram.Tensor

def jointLength? (m n : Nat) : Option Nat :=
  if m = n || n = 1 then some m else if m = 1 then some n else none

def spread {β γ δ : Type} (f : β → γ → δ) : List β → List γ → List δ
  | [x], ys => ys.map (f x)
  | xs, [y] => xs.map fun x => f x y
  | xs, ys => List.zipWith f xs ys

theorem spread_of_length_eq {β γ δ : Type} (f : β → γ → δ) (xs : List β) (ys : List γ)
    (h : xs.length = ys.length) : spread f xs ys = List.zipWith f xs ys := by
  match xs, ys with
  | [], [] => rfl
  | [x], [y] => rfl
  | x :: x' :: xs, y :: y' :: ys => rfl

variable {α : Type}

/-- Two lists combined item by item, where their lengths agree or one has a single item. -/
def pairUp {β γ δ : Type} (f : β → γ → δ) (xs : List β) (ys : List γ) :
    Except (Error α) (List δ) :=
  match jointLength? xs.length ys.length with
  | some _ => .ok (spread f xs ys)
  | none => .error (.fault (.unequalShapes [xs.length] [ys.length]))

theorem pairUp_of_length_eq {β γ δ : Type} (f : β → γ → δ) (xs : List β) (ys : List γ)
    (h : xs.length = ys.length) :
    (pairUp f xs ys : Except (Error α) (List δ)) = .ok (List.zipWith f xs ys) := by
  simp [pairUp, jointLength?, h, spread_of_length_eq]

/-- The shape that two shapes with equally many dimensions have together, where they do. -/
def jointShape? : List Nat → List Nat → Option (List Nat)
  | m :: s, n :: t => do
    let length ← jointLength? m n
    let shape ← jointShape? s t
    return length :: shape
  | _, _ => some []

/-- A shape with dimensions of one put in front, up to a number of dimensions. -/
def padShape (count : Nat) (shape : List Nat) : List Nat :=
  List.replicate (count - shape.length) 1 ++ shape

def spreadEntries (f : α → α → α) : List Nat → List Nat → List α → List α → List α
  | m :: s, n :: t, xs, ys =>
    (spread (spreadEntries f s t) (rowsOf (capacity s) m xs) (rowsOf (capacity t) n ys)).flatten
  | _, _, xs, ys => List.zipWith f xs ys

def broadcast (f : α → α → α) (a b : Tensor α) : Except (Error α) (Tensor α) :=
  if a.shape = b.shape then .ok ⟨a.shape, List.zipWith f a.entries b.entries⟩
  else
    let count := max a.shape.length b.shape.length
    let s := padShape count a.shape
    let t := padShape count b.shape
    match jointShape? s t with
    | some shape => .ok ⟨shape, spreadEntries f s t a.entries b.entries⟩
    | none => .error (.fault (.unequalShapes a.shape b.shape))

theorem broadcast_vector (f : α → α → α) (xs ys : List α) (h : xs.length = ys.length) :
    broadcast f (vector xs) (vector ys) = .ok (vector (List.zipWith f xs ys)) := by
  simp [broadcast, vector, h]

end NonlinearProgram.Tensor
