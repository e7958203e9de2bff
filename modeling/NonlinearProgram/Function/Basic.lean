import NonlinearProgram.Tensor

/-!
# Functions with capability tiers

A function from vectors to vectors declares its sizes and brings the hooks of its tier. Hooks take
well-formed vectors and may return anything or fail; the public operations check the tier,
the argument and the index before a hook is called and the result after it, in this order, so that
neither hooks nor callers meet a vector of the wrong length. An index is checked to lie in range and
handed on as it was given, so it is whole only where the caller gave a whole one.
-/

namespace NonlinearProgram

/-- A hook for values: a point to anything that may stand for a tensor. -/
abbrev ValueHook (α : Type) := List α → Except (Error α) (ArrayLike α)

/-- A hook for derivatives: a point and the index of an output component to anything that may stand
for a tensor. -/
abbrev DerivativeHook (α : Type) := List α → Datum α → Except (Error α) (ArrayLike α)

/-- What a function brings, by tier. -/
inductive Hooks (α : Type) where
  | valueOnly (compute : ValueHook α)
  | differentiable (compute : ValueHook α) (gradient : DerivativeHook α)
  | twiceDifferentiable (compute : ValueHook α) (gradient hessian : DerivativeHook α)

namespace Hooks

variable {α : Type}

def tier : Hooks α → Tier
  | valueOnly _ => .valueOnly
  | differentiable .. => .differentiable
  | twiceDifferentiable .. => .twiceDifferentiable

def compute : Hooks α → ValueHook α
  | valueOnly compute => compute
  | differentiable compute _ => compute
  | twiceDifferentiable compute .. => compute

def gradient? : Hooks α → Option (DerivativeHook α)
  | valueOnly _ => none
  | differentiable _ gradient => some gradient
  | twiceDifferentiable _ gradient _ => some gradient

def hessian? : Hooks α → Option (DerivativeHook α)
  | twiceDifferentiable _ _ hessian => some hessian
  | _ => none

theorem gradient?_isSome (h : Hooks α) :
    h.gradient?.isSome = true ↔ Tier.differentiable ≤ h.tier := by
  cases h <;> simp [gradient?, tier, Tier.le_def, Tier.order]

theorem hessian?_isSome (h : Hooks α) :
    h.hessian?.isSome = true ↔ Tier.twiceDifferentiable ≤ h.tier := by
  cases h <;> simp [hessian?, tier, Tier.le_def, Tier.order]

end Hooks

/-- A function from vectors of `inputSize` entries to vectors of `outputSize` entries, of which
there is at least one. -/
structure Function (α : Type) where
  family : String
  /-- The name as it was given. -/
  name : Datum α
  inputSize : Nat
  outputSize : Nat
  outputSize_pos : 0 < outputSize
  hooks : Hooks α

namespace Datum

variable {α : Type} [Scalar α]

/-- The natural a datum equals, when it equals an integer from `least` on; `refused` is the error
for any other that stands for an integer. -/
def natFrom (least : Nat) (refused : Error α) (d : Datum α) :
    Except (Error α) { m : Nat // least ≤ m } := do
  let _ ← d.toWhole
  match d.whole? with
  | some n => if h : least ≤ n.toNat ∧ 0 ≤ n then return ⟨n.toNat, h.1⟩ else throw refused
  | none => throw refused

end Datum

namespace Function

variable {α : Type}

/-- Declares a function. A function without a name takes the name of its family. -/
def declare [Scalar α] (family : String) (name inputSize outputSize : Datum α) (hooks : Hooks α) :
    Except (Error α) (Function α) := do
  let inputs ← inputSize.natFrom 0 (.inputSize inputSize)
  let outputs ← outputSize.natFrom 1 (.outputSize outputSize)
  return {
    family := family
    name := name.orText family
    inputSize := inputs.val
    outputSize := outputs.val
    outputSize_pos := outputs.property
    hooks := hooks }

def tier (f : Function α) : Tier := f.hooks.tier

def supports (f : Function α) (tier : Tier) : Bool := decide (tier ≤ f.tier)

variable [Scalar α]

def label (f : Function α) : String := f.name.write

def checkArgument (f : Function α) (x : Datum α) : Except (Error α) (List α) := do
  let t ← Tensor.ofDatum x
  if t.shape = [f.inputSize] then return t.entries
  else throw (.dimensionMismatch s!"argument of '{f.label}'" f.inputSize t.size)

def checkIndex (f : Function α) (index : Datum α) : Except (Error α) Unit := do
  if !(← index.isWithin f.outputSize) then
    throw (.indexOutOfRange s!"output of '{f.label}'" index f.outputSize)

/-- The entries of a result that has to have a given number of them. -/
def checkResult (f : Function α) (what : String) (size : Nat) (result : ArrayLike α) :
    Except (Error α) (List α) := do
  let t ← result.toTensor
  if t.size = size then return t.entries
  else throw (.dimensionMismatch s!"{what} of '{f.label}'" size t.size)

/-- The matrix of a result that has to be square. -/
def checkSquare (f : Function α) (result : ArrayLike α) : Except (Error α) (Matrix α) := do
  let t ← result.toTensor
  let n := f.inputSize
  if t.shape = [n, n] then return ⟨n, Tensor.rowsOf n n t.entries⟩
  else throw (.dimensionMismatch s!"hessian of '{f.label}'" (n * n : Nat) t.size)

def missing (f : Function α) (operation : String) (needs : Tier) : Error α :=
  .capabilityMismatch f.label f.tier operation needs

/-- The output vector at a point. -/
def compute (f : Function α) (x : Datum α) : Except (Error α) (List α) := do
  let point ← f.checkArgument x
  f.checkResult "result" f.outputSize (← f.hooks.compute point)

/-- The partial derivatives of one output component. -/
def gradient (f : Function α) (x : Datum α) (index : Datum α) : Except (Error α) (List α) :=
  match f.hooks.gradient? with
  | none => .error (f.missing "gradient" .differentiable)
  | some hook => do
    let point ← f.checkArgument x
    f.checkIndex index
    f.checkResult "gradient" f.inputSize (← hook point index)

/-- The matrix with one gradient per row. -/
def jacobian (f : Function α) (x : Datum α) : Except (Error α) (Matrix α) :=
  match f.hooks.gradient? with
  | none => .error (f.missing "jacobian" .differentiable)
  | some _ => do
    let point ← f.checkArgument x
    let rows ← (List.range f.outputSize).mapM fun (i : Nat) =>
      f.gradient (.vector point) (.whole i)
    return ⟨f.inputSize, rows⟩

/-- The second derivatives of one output component. -/
def hessian (f : Function α) (x : Datum α) (index : Datum α) : Except (Error α) (Matrix α) :=
  match f.hooks.hessian? with
  | none => .error (f.missing "hessian" .twiceDifferentiable)
  | some hook => do
    let point ← f.checkArgument x
    f.checkIndex index
    f.checkSquare (← hook point index)

def text (f : Function α) : String :=
  s!"{f.label} ({f.tier.label}, R^{f.inputSize} -> R^{f.outputSize})"

def signature (f : Function α) : String :=
  s!"{f.family}(input_size={f.inputSize}, output_size={f.outputSize}, name="
    ++ f.name.quoted ++ ")"

end Function

end NonlinearProgram
