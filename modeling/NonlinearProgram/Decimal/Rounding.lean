/-!
# Rounding fractions to decimal digits

A fraction is rounded to the nearest decimal with a given number of significant digits; a half
goes to the even neighbour. The rounding sees the exact fraction, never an intermediate decimal.
-/

namespace NonlinearProgram

structure Decimal where
  digits : Nat
  exponent : Int
  deriving DecidableEq, Repr

namespace Decimal

def digitCount (n : Nat) : Nat := (Nat.toDigits 10 n).length

/-- The nearest natural to a quotient, an exact half going to the even neighbour. -/
def roundHalfEven (numerator denominator : Nat) : Nat :=
  let quotient := numerator / denominator
  let rest := 2 * (numerator % denominator)
  if rest < denominator || (rest == denominator && quotient % 2 == 0) then quotient
  else quotient + 1

/-- The least `k` with `numerator / denominator < 10 ^ k`, for a positive fraction. The digit counts
fix it up to one. -/
def magnitude (numerator denominator : Nat) : Int :=
  let guess := (digitCount numerator : Int) - digitCount denominator
  if numerator * Nat.pow 10 (-guess).toNat < denominator * Nat.pow 10 guess.toNat then guess
  else guess + 1

def nearest (numerator denominator : Nat) (exponent : Int) : Decimal :=
  ⟨roundHalfEven (numerator * Nat.pow 10 (-exponent).toNat)
    (denominator * Nat.pow 10 exponent.toNat), exponent⟩

/-- A positive fraction to `count` significant digits. Rounding up to a power of ten keeps the digit
count and moves the exponent. -/
def significant (numerator denominator count : Nat) : Decimal :=
  let exponent := magnitude numerator denominator - count
  let rounded := nearest numerator denominator exponent
  if rounded.digits = Nat.pow 10 count then ⟨Nat.pow 10 (count - 1), exponent + 1⟩ else rounded

end Decimal

end NonlinearProgram
