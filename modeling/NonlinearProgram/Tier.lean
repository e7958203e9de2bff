/-!
# Capability tiers

What a function can tell a solver: its values, also its first derivatives, or also its second
derivatives. A higher tier includes every lower one.
-/

namespace NonlinearProgram

/-- How many orders of derivative a function provides. -/
inductive Tier where
  | valueOnly
  | differentiable
  | twiceDifferentiable
  deriving DecidableEq, Repr

namespace Tier

def order : Tier → Nat
  | valueOnly => 0
  | differentiable => 1
  | twiceDifferentiable => 2

def ofOrder? : Nat → Option Tier
  | 0 => some valueOnly
  | 1 => some differentiable
  | 2 => some twiceDifferentiable
  | _ => none

def label : Tier → String
  | valueOnly => "value-only"
  | differentiable => "differentiable"
  | twiceDifferentiable => "twice-differentiable"

def signature : Tier → String
  | valueOnly => "<FunctionTier.FUNCTION: 0>"
  | differentiable => "<FunctionTier.DIFFERENTIABLE: 1>"
  | twiceDifferentiable => "<FunctionTier.TWICE_DIFFERENTIABLE: 2>"

instance : LE Tier := ⟨fun a b => a.order ≤ b.order⟩

instance (a b : Tier) : Decidable (a ≤ b) := inferInstanceAs (Decidable (a.order ≤ b.order))

def lower (a b : Tier) : Tier := if b.order < a.order then b else a

theorem le_def (a b : Tier) : a ≤ b ↔ a.order ≤ b.order := Iff.rfl

theorem ofOrder?_order (t : Tier) : ofOrder? t.order = some t := by cases t <;> rfl

end Tier

end NonlinearProgram
