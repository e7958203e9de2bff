import NonlinearProgram.Expression.Value
import NonlinearProgram.Function.Supplied

/-!
# Expressions

User functions written as expressions over the coordinates of a point. Arithmetic asks for numbers,
except that two lists have a sum. The operands of an operation are all evaluated before the
operation is applied, but of two branches only the one taken is. An expression may depend on the
index of an output component, and it may fail with an error of its own; one that is never evaluated
does no harm.
-/

namespace NonlinearProgram

/-- The operations of one or more operands, applied from the left. -/
inductive Operation where
  | plus
  | minus
  | times
  | divided
  deriving DecidableEq, Repr

/-- What a user function computes. -/
inductive Expression (α : Type) where
  | nothing
  | number (x : α)
  | coordinate (position : Datum α)
  /-- The index passed, or minus one where none was. -/
  | index
  | fold (operation : Operation) (first : Expression α) (rest : List (Expression α))
  | negated (a : Expression α)
  | absolute (a : Expression α)
  | root (a : Expression α)
  | power (a : Expression α) (count : Datum α)
  /-- The third where the first is below the second, else the fourth. -/
  | ifLess (a b lower other : Expression α)
  | list (items : List (Expression α))
  /-- The item at the index passed. -/
  | cases (items : List (Expression α))
  /-- Has no value; evaluating it fails. -/
  | failing (error : Error α)
  /-- Has no value for any index; evaluating it fails, first of all without one. -/
  | caseless (error : Error α)

namespace Operation

variable {α : Type} [Scalar α]

def sign : Operation → String
  | plus => "+"
  | minus => "-"
  | times => "*"
  | divided => "/"

/-- Two numbers combined. A quotient by zero of what is zero or not a number is undefined. -/
def combine : Operation → α → α → Value α
  | plus, a, b => .number (a + b)
  | minus, a, b => .number (a - b)
  | times, a, b => .number (a * b)
  | divided, a, b =>
    if Scalar.equal b 0.0 && (Scalar.equal a 0.0 || Scalar.isNaN a) then .undefined none
    else .number (a / b)

/-- Two values combined. A divisor of zero asks what it divides for a number first. -/
def apply : Operation → Value α → Value α → Except (Error α) (Value α)
  | plus, .list xs, .list ys => .ok (.list (xs ++ ys))
  | plus, .list _, b => .error (.fault (.notContinuation b.typeName))
  | times, .list _, b => .error (.fault (.notRepetition b.typeName))
  | times, a, .list _ => .error (.fault (.notRepetition a.typeName))
  | operation, a, b =>
    match a.number?, b.number? with
    | some x, some y => .ok (operation.combine x y)
    | none, some y =>
      if operation = divided && Scalar.equal y 0.0 then .error (.fault (.notReal a.typeName))
      else .error (.fault (.notOperands operation.sign a.typeName b.typeName))
    | _, none => .error (.fault (.notOperands operation.sign a.typeName b.typeName))

end Operation

namespace Expression

variable {α : Type} [Scalar α]

def onNumber (operation : String) (f : α → α) (v : Value α) : Except (Error α) (Value α) :=
  match v.number? with
  | some x => .ok (.number (f x))
  | none => .error (.fault (.notOperand operation v.typeName))

/-- The square root of a number from zero on; of any other number it is undefined. -/
def rootOf (v : Value α) : Except (Error α) (Value α) :=
  match v.number? with
  | some x => .ok (if Scalar.atMost 0.0 x then .number (Scalar.sqrt x) else .undefined none)
  | none => .error (.fault (.notOrdered ">=" v.typeName "int"))

def repetitions : Datum α → Except (Error α) Nat
  | .whole n => .ok n.toNat
  | .flag b => .ok (if b then 1 else 0)
  | d => .error (.fault (.notCount d.typeName))

def powerOf (count : Nat) (base : Value α) : Except (Error α) (Value α) :=
  match base.number?, base, count with
  | some x, _, count => .ok (.number ((List.replicate count x).foldl (· * ·) 1.0))
  | none, _, 0 => .ok (.number 1.0)
  | none, .list _, _ => .error (.fault (.notRepetition "float"))
  | none, base, _ => .error (.fault (.notOperands "*=" "float" base.typeName))

/-- The error for an expression that depends on an index, where none is passed. -/
def noIndex : Error α := .raised .runtime "no index passed"

mutual

def eval (x : List α) (i : Option (Datum α)) : Expression α → Except (Error α) (Value α)
  | nothing => .ok .nothing
  | number y => .ok (.ofNumber none y)
  | coordinate position => do
    let k ← Datum.itemAt (List.range x.length) position
    return .ofNumber (some k) (← Datum.itemFrom x k)
  | index =>
    match i with
    | some k => do return .number (← k.toScalar)
    | none => .ok (.number (-1.0))
  | fold operation first rest => do
    let start ← eval x i first
    let others ← evalAll x i rest
    others.foldlM operation.apply start
  | negated a => do onNumber "unary -" (-·) (← eval x i a)
  | absolute a => do onNumber "abs()" Scalar.modulus (← eval x i a)
  | root a => do rootOf (← eval x i a)
  | power a count => do
    let base ← eval x i a
    powerOf (← repetitions count) base
  | ifLess a b lower other => do
    let left ← eval x i a
    let right ← eval x i b
    if ← left.isBelow right then eval x i lower else eval x i other
  | list items => do return .list (← evalAll x i items)
  | cases items =>
    match i with
    | none => .error noIndex
    | some k => do evalAt x i (← Datum.itemAt (List.range items.length) k) items
  | failing error => .error error
  | caseless error => .error (if i.isNone then noIndex else error)

def evalAll (x : List α) (i : Option (Datum α)) :
    List (Expression α) → Except (Error α) (List (Value α))
  | [] => .ok []
  | item :: rest => do
    let value ← eval x i item
    let others ← evalAll x i rest
    return value :: others

def evalAt (x : List α) (i : Option (Datum α)) :
    Nat → List (Expression α) → Except (Error α) (Value α)
  | _, [] => .error (.fault .noItem)
  | 0, item :: _ => eval x i item
  | k + 1, _ :: rest => evalAt x i k rest

end

def toCallable (e : Expression α) : Callable α := fun x i => do return (← e.eval x i).toDatum

end Expression

end NonlinearProgram
