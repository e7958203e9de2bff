import NonlinearProgram.Decimal.Reader
import NonlinearProgram.Error

/-!
# What data stand for

A flag, a whole number or a text may stand for a number, a number may stand for a whole one, and a
text or a record has items as a list has. Where a datum does not stand for what is asked, the fault
names its type. A numeric argument is settled as a whole before anything else looks at it: then a
text has to be the name of an infinity or of what is not a number.
-/

namespace NonlinearProgram.Datum

variable {α : Type}

/-- The items of what can be gone through: of a list its items, of a text its characters, of a
record its names. -/
def items? : Datum α → Option (List (Datum α))
  | list items => some items
  | text s => some (s.toList.map fun c => text c.toString)
  | record fields => some (fields.map fun field => text field.1)
  | _ => none

def items (d : Datum α) : Except (Error α) (List (Datum α)) :=
  match d.items? with
  | some items => .ok items
  | none => .error (.fault (.notIterable d.typeName))

def sized (d : Datum α) : Except (Error α) (List (Datum α)) :=
  match d.items? with
  | some items => .ok items
  | none => .error (.fault (.unsized d.typeName))

def asText : Datum α → Except (Error α) String
  | text s => .ok s
  | d => .error (.fault (.notText d.typeName))

/-- The text that names a family or a backend; it has no null character. -/
def asTypeName (d : Datum α) : Except (Error α) String := do
  let name ← d.asText
  if name.toList.contains '\x00' then throw (.fault .nullCharacter) else return name

/-- What a datum, which has to be a record, has to have under a name. -/
def require (d : Datum α) (name : String) : Except (Error α) (Datum α) :=
  match d, d.field? name with
  | _, some part => .ok part
  | record _, none => .error (.fault (.noKey name))
  | list _, none => .error (.fault (.badPosition "str"))
  | text _, none => .error (.fault (.badTextPosition "str"))
  | d, none => .error (.fault (.notIndexed d.typeName))

/-- The name that a datum looks up, where it is one. A list or a record cannot be looked up. -/
def key? : Datum α → Except (Error α) (Option String)
  | text s => .ok (some s)
  | list items => .error (.fault (.notKey (typeName (list items))))
  | record fields => .error (.fault (.notKey (typeName (record fields))))
  | _ => .ok none

variable [Scalar α]

def scalarOfWhole (n : Int) : Except (Error α) α :=
  let x : α := Scalar.ofInt n
  if Scalar.isFinite x then .ok x else .error (.fault .tooLarge)

def toScalar : Datum α → Except (Error α) α
  | flag b => .ok (if b then 1.0 else 0.0)
  | whole n => scalarOfWhole n
  | number x => .ok x
  | text s =>
    match Decimal.read? s.toList with
    | some x => .ok x
    | none => .error (.fault (.unreadableNumber s))
  | d => .error (.fault (.notNumber d.typeName))

def toReal : Datum α → Except (Error α) α
  | text s => .error (.fault (.notReal (typeName (text s : Datum α))))
  | d => d.toScalar

/-- The number that a text names: an infinity, or what is not a number. -/
def named? : String → Option α
  | "nan" => some Scalar.notANumber
  | "inf" => some Scalar.infinity
  | "-inf" => some (-Scalar.infinity)
  | _ => none

def named (name : String) : Except (Error α) α :=
  match named? name with
  | some x => .ok x
  | none => .error (.fault (.noKey name))

def unnamed : Datum α → Datum α
  | text s => ((named? s).map number).getD (text s)
  | d => d

mutual

/-- A datum in which everything has become the number that it stands for, also in a nested list.
Only nothing stays what it is, and a text stands for the number that it names. The first that
stands for no number is the fault. -/
def numeric : Datum α → Except (Error α) (Datum α)
  | nothing => .ok nothing
  | text s => do return number (← named s)
  | list items => do return list (← numericItems items)
  | d => do return number (← d.toScalar)
termination_by structural d => d

def numericItems : List (Datum α) → Except (Error α) (List (Datum α))
  | [] => .ok []
  | item :: rest => do
    let first ← numeric item
    let others ← numericItems rest
    return first :: others
termination_by structural items => items

end

def truncated (x : α) : Except (Error α) Int :=
  match Scalar.reading x with
  | .notANumber => .error (.fault .undefinedWhole)
  | .infinite _ => .error (.fault .infiniteWhole)
  | .finite negative numerator denominator =>
    let magnitude : Int := (numerator / denominator : Nat)
    .ok (if negative then -magnitude else magnitude)

def digitLimit : Nat := 4300

/-- The whole number that a datum stands for, a fraction left out. The digits of a text are counted
before what follows them is looked at, unless that is an underscore. -/
def toWhole : Datum α → Except (Error α) Int
  | flag b => .ok (if b then 1 else 0)
  | whole n => .ok n
  | number x => truncated x
  | text s =>
    let (negative, digits, rest) := Decimal.readDigits s.toList
    if digitLimit < digits.length && rest.head? ≠ some '_' then
      .error (.fault (.tooManyDigits digits.length digitLimit))
    else if digits.isEmpty || !rest.isEmpty then .error (.fault (.unreadableWhole s))
    else .ok (Decimal.wholeOf negative digits)
  | d => .error (.fault (.notWhole d.typeName))

def whole? : Datum α → Option Int
  | flag b => some (if b then 1 else 0)
  | whole n => some n
  | number x => Scalar.toInt? x
  | _ => none

mutual

/-- Whether two data are equal: numbers of any type by their values, lists by their items in order,
and records by what they have under each name. -/
def isSame : Datum α → Datum α → Bool
  | nothing, nothing => true
  | text s, text t => s == t
  | list xs, list ys => areSame xs ys
  | record xs, record ys => xs.length == ys.length && haveSame xs ys
  | a, b =>
    match a.whole?, b.whole?, a, b with
    | some m, some n, _, _ => m == n
    | _, _, number x, number y => Scalar.equal x y
    | _, _, _, _ => false
termination_by structural a => a

def areSame : List (Datum α) → List (Datum α) → Bool
  | [], [] => true
  | x :: xs, y :: ys => isSame x y && areSame xs ys
  | _, _ => false
termination_by structural xs => xs

def haveSame : List (String × Datum α) → List (String × Datum α) → Bool
  | [], _ => true
  | (name, value) :: rest, fields =>
    (match fields.lookup name with
      | some other => isSame value other
      | none => false) && haveSame rest fields
termination_by structural xs => xs

end

/-- Whether a number is one of the positions from zero up to a size, or lies between two of them. -/
def isWithin (d : Datum α) (size : Nat) : Except (Error α) Bool :=
  match d.whole?, d with
  | some n, _ => .ok (decide (0 ≤ n ∧ n < size))
  | none, number x => .ok (Scalar.atMost 0.0 x && Scalar.less x (Scalar.ofInt size))
  | none, d => .error (.fault (.notOrdered "<=" "int" d.typeName))

omit [Scalar α] in
/-- The item of a list at a position; positions below zero count from the end. -/
def itemFrom {β : Type} (items : List β) (position : Int) : Except (Error α) β :=
  let k := if position < 0 then position + items.length else position
  match if 0 ≤ k then items[k.toNat]? else none with
  | some item => .ok item
  | none => .error (.fault .noItem)

omit [Scalar α] in
def itemAt {β : Type} (items : List β) : Datum α → Except (Error α) β
  | whole k => itemFrom items k
  | flag b => itemFrom items (if b then 1 else 0)
  | d => .error (.fault (.badPosition d.typeName))

end NonlinearProgram.Datum
