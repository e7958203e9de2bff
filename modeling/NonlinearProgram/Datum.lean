import NonlinearProgram.Scalar
import NonlinearProgram.Text.Quoted

/-!
# Data from outside

Points, options, counts, names and messages come from users and from solving libraries, and what
comes need not be of the type its place asks for. A `Datum` is such a value before it is looked at:
it has a type, a written form and a truth value. What it stands for is settled in
`Datum/Conversion.lean`.
-/

namespace NonlinearProgram

/-- A value as it was handed over. -/
inductive Datum (α : Type) where
  | nothing
  | flag (b : Bool)
  | whole (n : Int)
  | number (x : α)
  | text (s : String)
  | list (items : List (Datum α))
  /-- Values by name, in the order in which they were given. -/
  | record (fields : List (String × Datum α))

abbrev Fields (α : Type) := List (String × Datum α)

namespace Datum

variable {α : Type}

instance : Inhabited (Datum α) := ⟨nothing⟩

def typeName : Datum α → String
  | nothing => "NoneType"
  | flag _ => "bool"
  | whole _ => "int"
  | number _ => "float"
  | text _ => "str"
  | list _ => "list"
  | record _ => "dict"

def ofText? (s : Option String) : Datum α := (s.map text).getD nothing

def vector (xs : List α) : Datum α := list (xs.map number)

def texts (items : List String) : Datum α := list (items.map text)

def isText (d : Datum α) (s : String) : Bool :=
  match d with
  | text t => t == s
  | _ => false

def field? (d : Datum α) (name : String) : Option (Datum α) :=
  match d with
  | record fields => fields.lookup name
  | _ => none

/-- A datum that may be missing, where one that is nothing counts as missing. -/
def given? : Datum α → Option (Datum α)
  | nothing => none
  | d => some d

variable [Scalar α]

/-- Whether a datum counts as true: nothing, zero and what is empty do not. -/
def holds : Datum α → Bool
  | nothing => false
  | flag b => b
  | whole n => n != 0
  | number x => !Scalar.equal x 0.0
  | text s => !s.isEmpty
  | list items => !items.isEmpty
  | record fields => !fields.isEmpty

def orText (d : Datum α) (s : String) : Datum α := if d.holds then d else text s

mutual

def quoted : Datum α → String
  | nothing => "None"
  | flag b => if b then "True" else "False"
  | whole n => toString n
  | number x => Scalar.shortest x
  | text s => Text.quoted s
  | list items => "[" ++ ", ".intercalate (quotedItems items) ++ "]"
  | record fields => "\x7b" ++ ", ".intercalate (quotedFields fields) ++ "\x7d"
termination_by structural d => d

def quotedItems : List (Datum α) → List String
  | [] => []
  | item :: rest => quoted item :: quotedItems rest
termination_by structural items => items

def quotedFields : List (String × Datum α) → List String
  | [] => []
  | (name, value) :: rest => (Text.quoted name ++ ": " ++ quoted value) :: quotedFields rest
termination_by structural fields => fields

end

def write : Datum α → String
  | text s => s
  | d => quoted d

end Datum

end NonlinearProgram
