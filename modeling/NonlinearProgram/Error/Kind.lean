/-!
# Classes of errors

Callers that handle several causes alike ask for the class of an error. A class may belong to wider
ones.
-/

namespace NonlinearProgram

/-- The classes of errors that callers can tell apart. -/
inductive ErrorKind where
  | problem
  | dimensionMismatch
  | invalidInterval
  | invalidScale
  | indexOutOfRange
  | capabilityMismatch
  | problemFrozen
  | backendNotFound
  | backendUnavailable
  | unsupportedTier
  | badGradient
  | value
  | index
  | type
  | runtime
  | lookup
  | key
  | assertion
  | arithmetic
  | overflow
  | attribute
  | importFailure
  | missingModule
  | notRenderable
  deriving DecidableEq, Repr

/-- The wider classes an error of a class also belongs to, its own included. -/
def ErrorKind.classes : ErrorKind → List ErrorKind
  | dimensionMismatch => [.dimensionMismatch, .problem, .value]
  | invalidInterval => [.invalidInterval, .problem, .value]
  | invalidScale => [.invalidScale, .problem, .value]
  | indexOutOfRange => [.indexOutOfRange, .problem, .index, .lookup]
  | capabilityMismatch => [.capabilityMismatch, .problem, .type]
  | problemFrozen => [.problemFrozen, .problem, .runtime]
  | backendNotFound => [.backendNotFound, .problem, .lookup]
  | backendUnavailable => [.backendUnavailable, .backendNotFound, .problem, .lookup]
  | unsupportedTier => [.unsupportedTier, .problem, .type]
  | badGradient => [.badGradient, .problem, .assertion]
  | index => [.index, .lookup]
  | key => [.key, .lookup]
  | overflow => [.overflow, .arithmetic]
  | missingModule => [.missingModule, .importFailure]
  | kind => [kind]

def ErrorKind.isA (kind wider : ErrorKind) : Bool := kind.classes.contains wider

end NonlinearProgram
