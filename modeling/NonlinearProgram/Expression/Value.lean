import NonlinearProgram.Datum.Conversion

/-!
# Values of expressions

An expression has a number, a list or nothing for its value. What is not a number is told apart by
where it comes from: the one that an expression writes, or that an operation without a result gives,
is the same wherever it stands, and so is the one that a coordinate of the point holds, while one
that is computed is a new number and equals nothing. Lists are ordered by their items at the first
place where these are not the same.
-/

namespace NonlinearProgram

inductive Value (α : Type) where
  | nothing
  | number (x : α)
  /-- What is not a number, held by a coordinate, or else written or given for want of a result. -/
  | undefined (coordinate : Option Nat)
  | list (items : List (Value α))

namespace Value

variable {α : Type}

def typeName : Value α → String
  | nothing => "NoneType"
  | number _ | undefined _ => "float"
  | list _ => "list"

variable [Scalar α]

def ofNumber (coordinate : Option Nat) (x : α) : Value α :=
  if Scalar.isNaN x then undefined coordinate else number x

mutual

def toDatum : Value α → Datum α
  | nothing => .nothing
  | number x => .number x
  | undefined _ => .number Scalar.notANumber
  | list items => .list (toItems items)
termination_by structural v => v

def toItems : List (Value α) → List (Datum α)
  | [] => []
  | item :: rest => toDatum item :: toItems rest
termination_by structural items => items

end

def number? : Value α → Option α
  | number x => some x
  | undefined _ => some Scalar.notANumber
  | _ => none

mutual

/-- Whether two values are the same: equal numbers, the same undefined number, or lists of one
length with the same items. -/
def isSame : Value α → Value α → Bool
  | list xs, list ys => areSame xs ys
  | undefined a, undefined b => a == b
  | number x, number y => Scalar.equal x y
  | nothing, nothing => true
  | _, _ => false
termination_by structural v => v

def areSame : List (Value α) → List (Value α) → Bool
  | [], [] => true
  | x :: xs, y :: ys => isSame x y && areSame xs ys
  | _, _ => false
termination_by structural xs => xs

end

mutual

def isBelow : Value α → Value α → Except (Error α) Bool
  | list xs, list ys => areBelow xs ys
  | a, b =>
    match a.number?, b.number? with
    | some x, some y => .ok (Scalar.less x y)
    | _, _ => .error (.fault (.notOrdered "<" a.typeName b.typeName))
termination_by structural v => v

/-- Whether a list is below another one: at the first items that are not the same, or by being a
part of it. -/
def areBelow : List (Value α) → List (Value α) → Except (Error α) Bool
  | [], ys => .ok (!ys.isEmpty)
  | _ :: _, [] => .ok false
  | x :: xs, y :: ys => if isSame x y then areBelow xs ys else isBelow x y
termination_by structural xs => xs

end

end Value

end NonlinearProgram
