import NonlinearProgram.Error.Raised
import NonlinearProgram.Expression

/-!
# Reading expressions

An expression is written as data: a number or the name of one, a list of an operation and its
operands, or a record with the items of a list or with a case for each index. Every datum stands for
an expression. What is missing or out of place shows only where the expression is evaluated, so the
branch that is not taken may lack anything.
-/

namespace NonlinearProgram.Expression

variable {α : Type} [Scalar α]

def missing : Expression α := failing (.fault .noItem)

def operand (operands : List (Expression α)) (position : Nat) : Expression α :=
  operands[position]?.getD missing

def ofName (name : String) : Expression α :=
  match Datum.named name with
  | .ok x => number x
  | .error error => failing error

/-- The number that a whole number is, which may be too large for one. -/
def ofWhole (n : Int) : Expression α :=
  match Datum.scalarOfWhole n with
  | .ok x => number x
  | .error error => failing error

def ofCoordinate : List (Datum α) → Expression α
  | [] => missing
  | position :: _ => coordinate position

def ofPower (operands : List (Expression α)) : List (Datum α) → Expression α
  | _ :: count :: _ => power (operand operands 0) count
  | _ => missing

def ofRaise (kinds : RaisableKinds) : List (Datum α) → Expression α
  | kind :: message :: _ => failing (kinds.error kind message)
  | _ => missing

def operationOf (sign : String) : Operation :=
  match sign with
  | "+" => .plus
  | "-" => .minus
  | "*" => .times
  | _ => .divided

/-- The expression of an operation with its operands, as they are written and as expressions. -/
def ofOperation (kinds : RaisableKinds) (head : Datum α) (written : List (Datum α))
    (operands : List (Expression α)) : Expression α :=
  match if let .text name := head then name else "" with
  | "x" => ofCoordinate written
  | "i" => index
  | "neg" => negated (operand operands 0)
  | "abs" => absolute (operand operands 0)
  | "sqrt" => root (operand operands 0)
  | "pow" => ofPower operands written
  | "iflt" =>
    ifLess (operand operands 0) (operand operands 1) (operand operands 2) (operand operands 3)
  | "raise" => ofRaise kinds written
  | sign => fold (operationOf sign) (operand operands 0) operands.tail

mutual

def ofDatum (kinds : RaisableKinds) : Datum α → Expression α
  | .nothing => nothing
  | .flag b => number (if b then 1.0 else 0.0)
  | .whole n => ofWhole n
  | .number x => number x
  | .text s => ofName s
  | .list [] => missing
  | .list (head :: operands) => ofOperation kinds head operands (ofItems kinds operands)
  | .record fields =>
    match listIn kinds fields with
    | some items => items
    | none => casesIn kinds fields
termination_by structural d => d

def ofItems (kinds : RaisableKinds) : List (Datum α) → List (Expression α)
  | [] => []
  | item :: rest => ofDatum kinds item :: ofItems kinds rest
termination_by structural items => items

def listIn (kinds : RaisableKinds) :
    List (String × Datum α) → Option (Expression α)
  | [] => none
  | (name, value) :: rest =>
    if name = "vec" then some (listOf kinds value) else listIn kinds rest
termination_by structural fields => fields

def listOf (kinds : RaisableKinds) : Datum α → Expression α
  | .list items => list (ofItems kinds items)
  | .text s => list (s.toList.map fun c => ofName c.toString)
  | .record fields => list (fields.map fun field => ofName field.1)
  | d => failing (.fault (.notIterable d.typeName))
termination_by structural d => d

def casesIn (kinds : RaisableKinds) : List (String × Datum α) → Expression α
  | [] => caseless (.fault (.noKey "cases"))
  | (name, value) :: rest =>
    if name = "cases" then casesOf kinds value else casesIn kinds rest
termination_by structural fields => fields

/-- The items of a datum as cases; by its position only a list or a text has any. -/
def casesOf (kinds : RaisableKinds) : Datum α → Expression α
  | .list items => cases (ofItems kinds items)
  | .text s => cases (s.toList.map fun c => ofName c.toString)
  | .record _ => caseless (.fault (.noKey "cases"))
  | d => caseless (.fault (.notIndexed d.typeName))
termination_by structural d => d

end

end NonlinearProgram.Expression
