import NonlinearProgram.Datum.Conversion

/-!
# Intervals

An interval is closed on finite ends and open on infinite ones. Its ends are numbers in order; a
bound that would break this is refused where it is made, so no interval here has an end that is
not a number.
-/

namespace NonlinearProgram

/-- The numbers from `lower` to `upper`; either end may be infinite. -/
structure Interval (α : Type) [Scalar α] where
  lower : α
  upper : α
  ordered : Scalar.atMost lower upper = true

namespace Interval

open Scalar

variable {α : Type} [Scalar α]

def between (lower upper : α) : Except (Error α) (Interval α) :=
  if isNaN lower || isNaN upper then .error (.undefinedBound lower upper)
  else if ordered : atMost lower upper = true then .ok ⟨lower, upper, ordered⟩
  else .error (.reversedBounds lower upper)

def ofData (lower upper : Datum α) : Except (Error α) (Interval α) := do
  between (← lower.toScalar) (← upper.toScalar)

def unbounded : Interval α := ⟨-infinity, infinity, infinities_ordered⟩

def lowerBounded (lower : Datum α) : Except (Error α) (Interval α) :=
  ofData lower (.number infinity)

def upperBounded (upper : Datum α) : Except (Error α) (Interval α) :=
  ofData (.number (-infinity)) upper

def equality (value : Datum α) : Except (Error α) (Interval α) := ofData value value

def isEquality (i : Interval α) : Bool := equal i.lower i.upper

def isBoundedBelow (i : Interval α) : Bool := less (-infinity) i.lower

def isBoundedAbove (i : Interval α) : Bool := less i.upper infinity

def isUnbounded (i : Interval α) : Bool := !(i.isBoundedBelow || i.isBoundedAbove)

/-- How far a value lies outside: zero inside, infinite for what is not a number. -/
def distance (i : Interval α) (value : α) : α :=
  if isNaN value then infinity
  else if less value i.lower then i.lower - value
  else if less i.upper value then value - i.upper
  else 0.0

def isOutside (i : Interval α) (value : α) : Bool := less value i.lower || less i.upper value

/-- Whether a value lies inside, or outside by no more than the tolerance. -/
def contains (i : Interval α) (value tolerance : α) : Bool := atMost (i.distance value) tolerance

/-- The point of the interval closest to a value. -/
def project (i : Interval α) (value : α) : α := smaller (larger value i.lower) i.upper

def isScale (scale : α) : Bool := less 0.0 scale && isFinite scale

/-- Both ends times a positive factor. -/
def scaled (i : Interval α) (scale : α) : Except (Error α) (Interval α) :=
  if isScale scale then between (i.lower * scale) (i.upper * scale)
  else .error (.intervalScale scale)

def sameEnds (i j : Interval α) : Bool := equal i.lower j.lower && equal i.upper j.upper

def signature (i : Interval α) : String :=
  "Interval(lower=" ++ shortest i.lower ++ ", upper=" ++ shortest i.upper ++ ")"

def text (i : Interval α) : String :=
  (if i.isBoundedBelow then "[" else "(") ++ general 6 i.lower ++ ", " ++ general 6 i.upper
    ++ (if i.isBoundedAbove then "]" else ")")

end Interval

end NonlinearProgram
