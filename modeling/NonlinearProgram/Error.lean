import NonlinearProgram.Datum
import NonlinearProgram.Decimal.Layout
import NonlinearProgram.Error.Fault
import NonlinearProgram.Log
import NonlinearProgram.Tier

/-!
# Errors

An error is its cause. `Error.kind` classifies it for callers that handle several causes alike,
and `Error.message` words it. What was handed in and refused is kept as it was given.
-/

namespace NonlinearProgram

variable {α : Type} [Scalar α]

inductive Error (α : Type) where
  /-- A vector, bound or scale list of another length than declared. -/
  | dimensionMismatch (what : String) (expected actual : Int)
  /-- An interval end that is not a number. -/
  | undefinedBound (lower upper : α)
  /-- An interval whose lower end is above its upper end. -/
  | reversedBounds (lower upper : α)
  /-- An interval scaled by something other than a positive finite number. -/
  | intervalScale (scale : α)
  /-- A constraint scale other than a positive finite number. -/
  | constraintScale (name : String) (scale : α)
  | indexOutOfRange (what : String) (index : Datum α) (size : Int)
  /-- A derivative asked of a function that does not provide it. -/
  | capabilityMismatch (name : String) (has : Tier) (operation : String) (needs : Tier)
  | problemFrozen
  /-- A name under which no backend is registered, and the names that are. -/
  | backendNotFound (name : Datum α) (known : List String)
  /-- A registered backend whose library is not installed. -/
  | backendUnavailable (name : String) (library : Datum α)
  /-- A problem function below the tier a backend needs. -/
  | unsupportedTier (backend : Datum α) (role : String) (functionName : Datum α)
    (required actual : Tier)
  /-- An analytic derivative that disagrees with its estimate. -/
  | badGradient (name : String) (index : Datum α) (error tolerance : α)
  | inputSize (given : Datum α)
  | outputSize (given : Datum α)
  | hessianWithoutGradient
  | asymmetricMatrix
  | tooFewDimensions
  /-- A value of another type where an interval belongs. -/
  | notInterval (role typeName : String)
  | unknownPriority (given : Datum α)
  /-- The backend that suits a problem is not among the available ones. -/
  | selectionUnavailable (choice : String) (available : List String)
  | namelessBackend (className : String)
  | noWarnings
  /-- An error raised by a user's function or by a solving library. -/
  | raised (kind : ErrorKind) (message : String)
  | fault (fault : Fault)

def priorityNames : List String := ["robustness", "speed", "accuracy", "balanced"]

namespace Error

def sizeText (what expected actual : String) : String :=
  s!"{what}: expected size {expected}, got {actual}"

def rangeText (what index size : String) : String :=
  s!"{what} index {index} out of range [0, {size})"

def nameText (name : String) (known : List String) : String :=
  s!"No solver backend named '{name}'"
    ++ if known.isEmpty then "" else " (registered: " ++ ", ".intercalate known ++ ")"

def libraryText (name library : String) : String :=
  s!"Solver backend '{name}' requires '{library}', which is not installed"

def tierText (backend role functionName : String) (required actual : Tier) : String :=
  s!"Backend '{backend}' needs a {required.label} {role}, but '{functionName}' is only "
    ++ actual.label

omit [Scalar α] in
def kind : Error α → ErrorKind
  | dimensionMismatch .. => .dimensionMismatch
  | undefinedBound .. | reversedBounds .. => .invalidInterval
  | intervalScale _ | constraintScale .. => .invalidScale
  | indexOutOfRange .. => .indexOutOfRange
  | capabilityMismatch .. => .capabilityMismatch
  | problemFrozen => .problemFrozen
  | backendNotFound .. => .backendNotFound
  | backendUnavailable .. => .backendUnavailable
  | unsupportedTier .. => .unsupportedTier
  | badGradient .. => .badGradient
  | inputSize _ | outputSize _ | hessianWithoutGradient | asymmetricMatrix | tooFewDimensions
  | unknownPriority _ | selectionUnavailable .. | namelessBackend _ | noWarnings => .value
  | notInterval .. => .type
  | raised kind _ => kind
  | fault f => f.kind

def message : Error α → String
  | dimensionMismatch what expected actual => sizeText what (toString expected) (toString actual)
  | undefinedBound lower upper =>
    "Interval bounds must not be NaN: [" ++ Scalar.shortest lower ++ ", "
      ++ Scalar.shortest upper ++ "]"
  | reversedBounds lower upper =>
    "Invalid interval: lower (" ++ Scalar.shortest lower ++ ") > upper ("
      ++ Scalar.shortest upper ++ ")"
  | intervalScale scale => "Scale must be positive and finite, got " ++ Scalar.shortest scale
  | constraintScale name scale =>
    s!"Scales of constraint '{name}' must be positive and finite, got "
      ++ Scalar.shortest scale
  | indexOutOfRange what index size => rangeText what index.write (toString size)
  | capabilityMismatch name has operation needs =>
    s!"'{name}' is {has.label}; {operation} needs a {needs.label} function"
  | problemFrozen => "Problem has been handed to a solver and can no longer be modified"
  | backendNotFound name known => nameText name.write known
  | backendUnavailable name library => libraryText name library.write
  | unsupportedTier backend role functionName required actual =>
    tierText backend.write role functionName.write required actual
  | badGradient name index error tolerance =>
    s!"Derivative of '{name}'[{index.write}] is off by " ++ Scalar.exponential 3 error
      ++ " (tolerance " ++ Scalar.exponential 1 tolerance ++ ")"
  | inputSize given => "input_size must be a non-negative integer, got " ++ given.write
  | outputSize given => "output_size must be a positive integer, got " ++ given.write
  | hessianWithoutGradient => "A hessian callable requires a gradient callable"
  | asymmetricMatrix => "Quadratic matrix must be symmetric"
  | tooFewDimensions => "Rosenbrock function requires at least 2 dimensions"
  | notInterval role typeName => s!"{role} bounds must be Interval objects, got {typeName}"
  | unknownPriority given =>
    s!"Unknown priority '{given.write}'; expected one of " ++ ", ".intercalate priorityNames
  | selectionUnavailable choice available =>
    s!"Selected backend '{choice}' is not available (available: "
      ++ ", ".intercalate available ++ ")"
  | namelessBackend className => s!"{className} has no backend name"
  | noWarnings => "SolvedWithWarnings requires at least one warning"
  | raised _ message => message
  | fault f => f.message

def sortedNames (names : List String) : List String := names.mergeSort fun a b => decide (a ≤ b)

omit [Scalar α] in
/-- The error for a name that is not registered; the registered names are listed in order. -/
def unknownBackend (name : Datum α) (registered : List String) : Error α :=
  .backendNotFound name (sortedNames registered)

omit [Scalar α] in
def attributes : Error α → Fields α
  | dimensionMismatch what expected actual =>
    [("what", .text what), ("expected", .whole expected), ("actual", .whole actual)]
  | indexOutOfRange what index size =>
    [("what", .text what), ("index", index), ("size", .whole size)]
  | backendNotFound name known => [("name", name), ("known", .texts known)]
  | backendUnavailable name library =>
    [("name", .text name), ("known", .list []), ("library", library)]
  | unsupportedTier backend role functionName required actual =>
    [("backend", backend), ("role", .text role), ("function_name", functionName),
      ("required", .text required.label), ("actual", .text actual.label)]
  | _ => []

end Error

def required {α β : Type} (missing : Fault) : Option β → Except (Error α) β
  | some part => .ok part
  | none => .error (.fault missing)

/-- A computation that can fail and that reports what it does, also when it fails. -/
abbrev Attempt (α β : Type) := ExceptT (Error α) Logged β

end NonlinearProgram
