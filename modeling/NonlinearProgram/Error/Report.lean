import NonlinearProgram.Datum.Conversion

/-!
# Reports made by hand

Any values can be put into an error, not only those that this library finds at fault. The class
words what it is given in the way of its own errors and keeps it under the same names; a class
without names of its own is worded by its arguments alone.
-/

namespace NonlinearProgram

/-- What an error is made from. -/
inductive ErrorArgument (α : Type) where
  | datum (d : Datum α)
  | tier (t : Tier)

/-- An error with its class, its wording, and what it tells by name. -/
structure ErrorReport (α : Type) where
  kind : ErrorKind
  message : String
  attributes : Fields α := []

namespace ErrorArgument

variable {α : Type}

def toDatum : ErrorArgument α → Datum α
  | datum d => d
  | tier t => .text t.label

def asTier : ErrorArgument α → Except (Error α) Tier
  | tier t => .ok t
  | datum d => .error (.fault (.noField d.typeName "label"))

variable [Scalar α]

def write : ErrorArgument α → String
  | datum d => d.write
  | tier t => toString t.order

def quoted : ErrorArgument α → String
  | datum d => d.quoted
  | tier t => t.signature

/-- The names that an argument lists, in order; what counts as false lists none. -/
def names : ErrorArgument α → Except (Error α) (List String)
  | datum d => do
    if !d.holds then return []
    return Error.sortedNames (← (← d.items).mapM Datum.asText)
  | tier _ => .error (.fault (.notIterable "int"))

end ErrorArgument

namespace ErrorReport

variable {α : Type} [Scalar α]

def plainText : List (ErrorArgument α) → String
  | [] => ""
  | [argument] => argument.write
  | arguments => "(" ++ ", ".intercalate (arguments.map (·.quoted)) ++ ")"

def unknownName (name : ErrorArgument α) (known : List String) : ErrorReport α where
  kind := .backendNotFound
  message := Error.nameText name.write known
  attributes := [("name", name.toDatum), ("known", .texts known)]

/-- The report of a class made from some arguments, of which some classes take a fixed number. -/
def make (kind : ErrorKind) (arguments : List (ErrorArgument α)) :
    Except (Error α) (ErrorReport α) :=
  match kind, arguments with
  | .dimensionMismatch, [what, expected, actual] =>
    .ok ⟨kind, Error.sizeText what.write expected.write actual.write,
      [("what", what.toDatum), ("expected", expected.toDatum), ("actual", actual.toDatum)]⟩
  | .indexOutOfRange, [what, index, size] =>
    .ok ⟨kind, Error.rangeText what.write index.write size.write,
      [("what", what.toDatum), ("index", index.toDatum), ("size", size.toDatum)]⟩
  | .backendNotFound, [name] => .ok (unknownName name [])
  | .backendNotFound, [name, known] => do return unknownName name (← known.names)
  | .backendUnavailable, [name, library] =>
    .ok ⟨kind, Error.libraryText name.write library.write,
      [("name", name.toDatum), ("known", .list []), ("library", library.toDatum)]⟩
  | .unsupportedTier, [backend, role, functionName, required, actual] => do
    let needed ← required.asTier
    let given ← actual.asTier
    return ⟨kind, Error.tierText backend.write role.write functionName.write needed given,
      [("backend", backend.toDatum), ("role", role.toDatum),
        ("function_name", functionName.toDatum), ("required", required.toDatum),
        ("actual", actual.toDatum)]⟩
  | .dimensionMismatch, _ | .indexOutOfRange, _ | .backendNotFound, _ | .backendUnavailable, _
  | .unsupportedTier, _ => .error (.fault (.badArguments "__init__"))
  | kind, arguments => .ok ⟨kind, plainText arguments, []⟩

end ErrorReport

end NonlinearProgram
