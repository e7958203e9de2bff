/-!
# Scalars

Everything in this library is written over a scalar type with the arithmetic and the comparisons
of floating-point numbers: quotients by zero have a value, infinities are values, and one value,
not a number, compares with nothing. `Scalar/Machine.lean` gives the machine's numbers and
`Scalar/Exact.lean` the same rules over exact fractions, so a statement about a program can be
made for either.
-/

namespace NonlinearProgram

/-- What a writer has to know of a number: its sign, and its exact value as a fraction. -/
inductive Reading where
  | notANumber
  | infinite (negative : Bool)
  | finite (negative : Bool) (numerator denominator : Nat)
  deriving DecidableEq, Repr

/-- Numbers with floating-point arithmetic, floating-point comparisons and a written form. -/
class Scalar (α : Type) extends Add α, Sub α, Mul α, Div α, Neg α, OfScientific α where
  /-- Strictly below; false when either side is not a number. -/
  less : α → α → Bool
  /-- Below or equal; false when either side is not a number. -/
  atMost : α → α → Bool
  /-- Numeric equality: the two zeros are equal, and what is not a number equals nothing. -/
  equal : α → α → Bool
  modulus : α → α
  /-- Square root; not a number below zero. -/
  sqrt : α → α
  /-- A number to a natural power. Of a machine's number this need not be what repeated
  multiplication gives, as that rounds every product. -/
  power : α → Nat → α
  infinity : α
  notANumber : α
  reading : α → Reading
  /-- The shortest text that identifies the number. -/
  shortest : α → String
  /-- The infinities are in order. -/
  infinities_ordered : atMost (-infinity) infinity = true

namespace Scalar

variable {α : Type} [Scalar α]

def isNaN (x : α) : Bool := !equal x x

def isFinite (x : α) : Bool := less (-infinity) x && less x infinity

/-- The larger of two numbers; the first one when neither is below the other. -/
def larger (a b : α) : α := if less a b then b else a

/-- The smaller of two numbers; the first one when neither is below the other. -/
def smaller (a b : α) : α := if less b a then b else a

/-- The larger of two entries, where an entry that is not a number wins. -/
def peak (a b : α) : α := if isNaN a then a else if isNaN b || less a b then b else a

def ofInt (i : Int) : α :=
  let magnitude : α := OfScientific.ofScientific i.natAbs false 0
  if i < 0 then -magnitude else magnitude

def sum (xs : List α) : α := xs.foldl (· + ·) 0.0

def dot (xs ys : List α) : α := sum (List.zipWith (· * ·) xs ys)

def toInt? (x : α) : Option Int :=
  match reading x with
  | .finite negative numerator denominator =>
    if numerator % denominator = 0 then
      let magnitude : Int := (numerator / denominator : Nat)
      some (if negative then -magnitude else magnitude)
    else none
  | _ => none

end Scalar

end NonlinearProgram
