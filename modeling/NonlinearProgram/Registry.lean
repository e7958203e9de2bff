import NonlinearProgram.Solver.Basic

/-!
# The registry of backends

Backends are found under their exact names. The built-in ones are registered at the first look, and
only under names that are still free, so that what a user registered before stays. Dispatch finds a
backend, checks the tiers, checks that its library can be imported, and binds it.
-/

namespace NonlinearProgram

structure Registry (α : Type) where
  entries : Dictionary (Backend α) := []
  seeded : Bool := false

namespace Registry

variable {α : Type} [Scalar α]

def nameOf (b : Backend α) : Except (Error α) String :=
  match b.name.join with
  | none | some "" => .error (.namelessBackend b.className)
  | some name => .ok name

/-- Registers a backend under its name. Taking the name of a different backend is worth a
warning. -/
def register (r : Registry α) (b : Backend α) : Attempt α (Registry α) := do
  let name ← (nameOf b : Except (Error α) String)
  match r.entries.get? name with
  | some earlier =>
    if earlier.identity ≠ b.identity then
      Logged.report .warning s!"Replacing backend '{name}' ({earlier.className})"
  | none => pure ()
  Logged.report .debug s!"Registered backend: {name}"
  return { r with entries := r.entries.put name b }

def seedMethod (r : Registry α) (method : Method) : Logged (Registry α) := do
  let b : Backend α := method.backend
  if (r.entries.get? b.label).isSome then return r
  match ← (r.register b).run with
  | .ok registered => return registered
  | .error _ => return r

def seed (r : Registry α) : Logged (Registry α) := do
  if r.seeded then return r
  let filled ← Method.all.foldlM seedMethod { r with seeded := true }
  Logged.report .debug s!"Initialized {filled.entries.length} solver backends"
  return filled

omit [Scalar α] in
def find (r : Registry α) (name : Datum α) : Except (Error α) (Backend α) := do
  match (← name.key?).bind r.entries.get? with
  | some b => return b
  | none => throw (.unknownBackend name r.entries.keys)

def get (r : Registry α) (name : Datum α) :
    Logged (Registry α × Except (Error α) (Backend α)) := do
  let r ← r.seed
  return (r, r.find name)

def names (r : Registry α) : Logged (Registry α × List String) := do
  let r ← r.seed
  return (r, r.entries.keys)

def availableNames (entries : Dictionary (Backend α)) (imports : Imports α) :
    Except (Error α) (List String) := do
  let marked ← entries.mapM fun (name, b) => do return (name, ← b.isAvailable imports)
  return (marked.filter (·.2)).map (·.1)

def available (r : Registry α) (imports : Imports α) :
    Logged (Registry α × Except (Error α) (List String)) := do
  let r ← r.seed
  return (r, availableNames r.entries imports)

def list (r : Registry α) : Logged (Registry α × Dictionary (Backend α)) := do
  let r ← r.seed
  return (r, r.entries)

def describe (entries : Dictionary (Backend α)) (imports : Imports α) :
    Except (Error α) (Dictionary (Fields α)) :=
  entries.mapM fun (name, b) => do
    let fields ← b.fields
    return (name, fields ++ [("available", .flag (← b.isAvailable imports))])

def dispatch (b : Backend α) (name : String) (imports : Imports α) (p : Problem α)
    (parameters : Options α) (priority : Option (Datum α)) : Attempt α (Solver α) := do
  b.checkProblem p
  if !(← (b.isAvailable imports : Except (Error α) Bool)) then
    throw (.backendUnavailable name (b.library.getD .nothing))
  let solver ← Solver.bind b p parameters priority
  Logged.report .info s!"Dispatched problem '{p.objective.label}' to {name}"
  return solver

def create (r : Registry α) (name : Datum α) (imports : Imports α) (p : Problem α)
    (parameters : Options α) (priority : Option (Datum α)) :
    Logged (Registry α × Except (Error α) (Solver α)) := do
  let (r, found) ← r.get name
  match found with
  | .error error => return (r, .error error)
  | .ok b => return (r, ← (dispatch b name.write imports p parameters priority).run)

end Registry

end NonlinearProgram
