import NonlinearProgram.Tensor

/-!
# What a solving library does

A solving library asks for values and derivatives at points of its choice, sees the answers, and in
the end returns an outcome or fails. `Conduct` is the tree of all that one library does in one run,
so a statement about every conduct is a statement about every library. What serves the library may
be changed by being asked, as an evaluator is that counts its calls.
-/

namespace NonlinearProgram

/-- A call of one of the callbacks a library was handed. -/
inductive Request (α : Type) where
  | value (x : Datum α)
  | gradient (x : Datum α)
  | hessian (x : Datum α)
  /-- The values of a block of constraints. -/
  | blockValue (block x : Datum α)
  | blockJacobian (block x : Datum α)
  /-- The weighted sum of the Hessians of a block. -/
  | blockHessian (block x : Datum α) (weights : Tensor α)
  | constraints (x : Datum α)
  | jacobian (x : Datum α)
  | jacobianPositions
  /-- The entries of the Hessian of the Lagrangian. -/
  | lagrangian (x : Datum α) (multipliers : Tensor α) (factor : α)
  | hessianPositions
  | iteration (number : Datum α)
  /-- A call that lacks a part; without a name there is no callback that it asks for. -/
  | incomplete (name : Option String) (block : Option (Datum α)) (error : Error α)
  /-- A call by a name under which no callback is handed over, perhaps for a block. -/
  | other (name : String) (block : Option (Datum α))

inductive Response (α : Type) where
  | number (x : α)
  | vector (xs : List α)
  | matrix (a : Matrix α)
  /-- The rows and the columns of some matrix entries. -/
  | positions (rows columns : List Nat)
  | goOn

abbrev Exchange (α : Type) := Request α × Except (Error α) (Response α)

/-- All that a library does in one run. -/
inductive Conduct (α Outcome : Type) where
  | finish (outcome : Outcome)
  | fail (error : Error α)
  | ask (request : Request α) (next : Except (Error α) (Response α) → Conduct α Outcome)

namespace Conduct

variable {α σ Outcome : Type}

/-- A run of a library: what served it, as it is afterwards, the transcript, and how the run ends.
Every call leaves what serves the next one. -/
def run (serve : σ → Request α → σ × Except (Error α) (Response α)) :
    Conduct α Outcome → σ → σ × List (Exchange α) × Except (Error α) Outcome
  | finish outcome, s => (s, [], .ok outcome)
  | fail error, s => (s, [], .error error)
  | ask request next, s =>
    let called := serve s request
    let rest := (next called.2).run serve called.1
    (rest.1, (request, called.2) :: rest.2.1, rest.2.2)

/-- The conduct that makes some requests in order, ends with the first that fails, and else ends in
a given way. -/
def script : List (Request α) → Except (Error α) Outcome → Conduct α Outcome
  | [], .ok outcome => finish outcome
  | [], .error error => fail error
  | request :: rest, ending => ask request fun
    | .ok _ => script rest ending
    | .error error => fail error

end Conduct

end NonlinearProgram
