import NonlinearProgram.Error.Kind
import NonlinearProgram.Text.Quoted

/-!
# Faults of the values handed in

A value may not be what its place asks for before any rule of this library applies to it. Such a
fault is told by the type of the value, by the shape of a list, or by what is missing.
-/

namespace NonlinearProgram

/-- A value that is not what its place asks for. -/
inductive Fault where
  /-- Rows of unequal shape; the shape is what all of them agree on. -/
  | ragged (shape : List Nat)
  /-- A list where a single number is written. -/
  | sequence
  /-- Lists nested more deeply than an array has dimensions. -/
  | tooDeep (limit : Nat)
  | tooManyDimensions
  /-- A single number where a length is asked for. -/
  | noLength
  /-- Two shapes that have to be combined entry by entry. -/
  | unequalShapes (left right : List Nat)
  /-- A shape that grows where it has to be kept. -/
  | grownShape (kept joint : List Nat)
  /-- Some other number of entries than one, where a single one is asked for. -/
  | notSingle (count : Nat)
  | noLargest
  /-- No entry of an array at a position. -/
  | noEntry (position length : Nat)
  /-- A position in a single number. -/
  | tooManyPositions
  /-- An array is not asked for an entry by a whole number. -/
  | noPosition
  | noItem
  /-- A list is not asked for an item by a whole number. -/
  | badPosition (typeName : String)
  /-- A text is not asked for a character by a whole number. -/
  | badTextPosition (typeName : String)
  /-- A value that stands for no number. -/
  | notNumber (typeName : String)
  /-- A value that stands for no number and is none. -/
  | notReal (typeName : String)
  /-- A value that stands for no whole number. -/
  | notWhole (typeName : String)
  | unreadableNumber (text : String)
  | unreadableWhole (text : String)
  /-- More digits than a text of a whole number may have. -/
  | tooManyDigits (count limit : Nat)
  | notByte
  | negativeCount
  | textForBytes
  /-- A value that stands for no bytes. -/
  | notBytes (typeName : String)
  | nullCharacter
  /-- What is not a number, where a whole number is needed. -/
  | undefinedWhole
  | infiniteWhole
  /-- A whole number beyond the largest scalar. -/
  | tooLarge
  | notOrdered (sign left right : String)
  /-- Values of types that an operation does not combine. -/
  | notOperands (operation left right : String)
  /-- A value of a type that an operation does not take. -/
  | notOperand (operation typeName : String)
  /-- A list that is to be repeated some other than a whole number of times. -/
  | notRepetition (typeName : String)
  /-- A list that is to be continued by something other than a list. -/
  | notContinuation (typeName : String)
  | notIterable (typeName : String)
  | unsized (typeName : String)
  /-- A value that is no key. -/
  | notKey (typeName : String)
  /-- A list whose entries have to be numbers and are lists themselves. -/
  | nestedEntry
  | notText (typeName : String)
  /-- A value that has no entries by name. -/
  | notIndexed (typeName : String)
  | badArguments (operation : String)
  /-- A callback that was not handed over. -/
  | noCallback (name : String)
  | noKey (name : String)
  | noField (owner name : String)
  | noModule (name : String)
  | emptyModule
  /-- A library named by its place below something else. -/
  | relativeModule (name : String)
  | notShown (typeName : String)
  /-- A value that is no count of repetitions. -/
  | notCount (typeName : String)
  | surplusArgument (operation name : String)
  | missingArguments (operation : String) (names : List String)
  deriving Repr

def writeShape (shape : List Nat) : String := Text.tuple (shape.map toString)

def writeShapeTight : List Nat → String
  | [n] => s!"({n},)"
  | shape => "(" ++ ",".intercalate (shape.map toString) ++ ")"

def shownTextLength : Nat := 200

namespace Fault

def kind : Fault → ErrorKind
  | ragged _ | sequence | tooDeep _ | tooManyDimensions | unequalShapes .. | grownShape ..
  | notSingle _ | noLargest | unreadableNumber _ | unreadableWhole _ | tooManyDigits ..
  | undefinedWhole | notByte | negativeCount | nullCharacter | emptyModule => .value
  | noEntry .. | tooManyPositions | noPosition | noItem => .index
  | infiniteWhole | tooLarge => .overflow
  | noKey _ => .key
  | noField .. => .attribute
  | noModule _ => .missingModule
  | notShown _ => .notRenderable
  | noLength | badPosition _ | notNumber _ | notReal _ | notWhole _ | notOrdered .. | notOperands ..
  | notOperand .. | notRepetition _ | notContinuation _ | notIterable _ | unsized _ | notKey _
  | nestedEntry | notText _ | badArguments _ | missingArguments .. | noCallback _ | notCount _
  | notIndexed _ | badTextPosition _ | textForBytes | notBytes _ | relativeModule _
  | surplusArgument .. => .type

def message : Fault → String
  | ragged shape =>
    "setting an array element with a sequence. The requested array has an inhomogeneous shape "
      ++ s!"after {shape.length} dimensions. The detected shape was {writeShape shape} + "
      ++ "inhomogeneous part."
  | sequence => "setting an array element with a sequence."
  | tooDeep limit =>
    "setting an array element with a sequence. The requested array would exceed the maximum "
      ++ s!"number of dimension of {limit}."
  | tooManyDimensions => "too many values to unpack (expected 2)"
  | noLength => "len() of unsized object"
  | unequalShapes left right =>
    "operands could not be broadcast together with shapes " ++ writeShapeTight left ++ " "
      ++ writeShapeTight right ++ " "
  | grownShape kept joint =>
    s!"non-broadcastable output operand with shape {writeShapeTight kept} doesn't match "
      ++ s!"the broadcast shape {writeShapeTight joint}"
  | notSingle 0 =>
    "The truth value of an empty array is ambiguous. "
      ++ "Use `array.size > 0` to check that an array is not empty."
  | notSingle _ =>
    "The truth value of an array with more than one element is ambiguous. "
      ++ "Use a.any() or a.all()"
  | noLargest => "zero-size array to reduction operation maximum which has no identity"
  | noEntry position length =>
    s!"index {position} is out of bounds for axis 0 with size {length}"
  | tooManyPositions =>
    "too many indices for array: array is 0-dimensional, but 1 were indexed"
  | noPosition => "only whole numbers are positions in an array"
  | noItem => "list index out of range"
  | badPosition typeName => s!"list indices must be integers or slices, not {typeName}"
  | badTextPosition typeName => s!"string indices must be integers, not '{typeName}'"
  | notNumber typeName => s!"float() argument must be a string or a real number, not '{typeName}'"
  | notReal typeName => s!"must be real number, not {typeName}"
  | notWhole typeName =>
    s!"int() argument must be a string, a bytes-like object or a real number, not '{typeName}'"
  | unreadableNumber text => "could not convert string to float: " ++ Text.quoted text
  | unreadableWhole text =>
    "invalid literal for int() with base 10: "
      ++ String.ofList ((Text.quoted text).toList.take shownTextLength)
  | tooManyDigits count limit =>
    s!"Exceeds the limit ({limit} digits) for integer string conversion: "
      ++ s!"value has {count} digits; "
      ++ "use sys.set_int_max_str_digits() to increase the limit"
  | notByte => "bytes must be in range(0, 256)"
  | negativeCount => "negative count"
  | textForBytes => "string argument without an encoding"
  | notBytes typeName => s!"cannot convert '{typeName}' object to bytes"
  | nullCharacter => "type name must not contain null characters"
  | undefinedWhole => "cannot convert float NaN to integer"
  | infiniteWhole => "cannot convert float infinity to integer"
  | tooLarge => "int too large to convert to float"
  | notOrdered sign left right =>
    s!"'{sign}' not supported between instances of '{left}' and '{right}'"
  | notOperands operation left right =>
    s!"unsupported operand type(s) for {operation}: '{left}' and '{right}'"
  | notOperand operation typeName => s!"bad operand type for {operation}: '{typeName}'"
  | notRepetition typeName => s!"can't multiply sequence by non-int of type '{typeName}'"
  | notContinuation typeName => s!"can only concatenate list (not \"{typeName}\") to list"
  | notIterable typeName => s!"'{typeName}' object is not iterable"
  | unsized typeName => s!"object of type '{typeName}' has no len()"
  | notKey typeName => s!"unhashable type: '{typeName}'"
  | nestedEntry => "unsupported format string for an array"
  | notText typeName => s!"expected string or bytes-like object, got '{typeName}'"
  | badArguments operation => s!"{operation}() got too few or too many arguments"
  | noCallback _ => "'NoneType' object is not callable"
  | noKey name => Text.quoted name
  | notIndexed typeName => s!"'{typeName}' object is not subscriptable"
  | noField owner name => s!"'{owner}' object has no attribute '{name}'"
  | noModule name => s!"No module named '{name}'"
  | emptyModule => "Empty module name"
  | relativeModule name =>
    s!"the 'package' argument is required to perform a relative import for {Text.quoted name}"
  | notShown typeName =>
    s!"unable to render {typeName}; a string or other renderable object is required"
  | notCount typeName => s!"'{typeName}' object cannot be interpreted as an integer"
  | surplusArgument operation name =>
    s!"{operation}() got an unexpected keyword argument '{name}'"
  | missingArguments operation names =>
    s!"{operation}() missing {names.length} required positional "
      ++ (if names.length = 1 then "argument: " else "arguments: ")
      ++ " and ".intercalate (names.map fun name => s!"'{name}'")

end Fault

end NonlinearProgram
