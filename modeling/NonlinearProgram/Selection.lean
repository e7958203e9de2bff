import NonlinearProgram.Problem.Basic

/-!
# Choosing a backend

The backend is chosen by what the problem's functions provide, then by what the user wants, then by
size. A backend that is not available is not replaced by another one.
-/

namespace NonlinearProgram.Selection

variable {α : Type}

def occursIn (part : List Char) : List Char → Bool
  | [] => part.isEmpty
  | c :: rest => part.isPrefixOf (c :: rest) || occursIn part rest

def defaults : Datum α := .texts ["scipy-slsqp", "scipy-trust-constr", "scipy-cobyla"]

def largeSize : Nat := 100

/-- Whether what is available has a name among its items; a text has the names that occur in it. -/
def offers (available : Datum α) (name : String) : Bool :=
  match available with
  | .list items => items.any (·.isText name)
  | .text s => occursIn name.toList s.toList
  | .record fields => fields.any (·.1 == name)
  | _ => false

@[simp] theorem offers_texts (names : List String) (name : String) :
    offers (.texts names : Datum α) name = names.contains name := by
  change (names.map Datum.text).any (Datum.isText · name) = names.contains name
  rw [List.any_map]
  induction names with
  | nil => rfl
  | cons first rest ih =>
    rw [List.any_cons, List.contains_cons, ih, Bool.beq_comm]
    rfl

variable [Scalar α]

/-- The backend that suits a problem: without gradients the derivative-free one; for accuracy with
Hessians one that uses them; for many variables an interior-point method where there is one. -/
def choice (p : Problem α) (priority available : Datum α) : String :=
  match p.minimumTier with
  | .valueOnly => "scipy-cobyla"
  | tier =>
    if tier = .twiceDifferentiable && priority.isText "accuracy" then
      if offers available "ipopt-td" then "ipopt-td" else "scipy-trust-constr"
    else if decide (largeSize < p.inputSize) && offers available "ipopt" then "ipopt"
    else "scipy-slsqp"

/-- The name of the backend chosen, which has to be available. -/
def select (p : Problem α) (priority available : Datum α) : Attempt α String := do
  let chosen := choice p priority available
  let items ← available.items
  if !offers available chosen then
    let names ← (items.mapM Datum.asText : Except (Error α) (List String))
    throw (.selectionUnavailable chosen names)
  Logged.report .info
    (s!"Selected {chosen} for a {p.minimumTier.label} problem with priority='{priority.write}'")
  return chosen

end NonlinearProgram.Selection
