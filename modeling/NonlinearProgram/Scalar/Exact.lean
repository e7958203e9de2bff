import NonlinearProgram.Scalar

/-!
# Exact scalars

Fractions, the two infinities, and what is not a number. Arithmetic on fractions is exact, and the
infinities follow the rules of floating-point arithmetic: opposite infinities have no sum, zero
times an infinity has no value, and a quotient by zero is infinite. There is one zero, so a
quotient by zero takes its sign from the numerator alone.
-/

namespace NonlinearProgram

/-- A fraction, an infinity, or what is not a number. -/
inductive Exact where
  | notANumber
  | negativeInfinity
  | finite (q : Rat)
  | infinity
  deriving DecidableEq, Repr

namespace Exact

/-- Whether a scalar has a place on the line from one infinity to the other. -/
def isNumber : Exact → Bool
  | notANumber => false
  | _ => true

def sign : Exact → Int
  | notANumber => 0
  | negativeInfinity => -1
  | finite q => q.num.sign
  | infinity => 1

def ofSign (sign : Int) : Exact :=
  if 0 < sign then infinity else if sign < 0 then negativeInfinity else notANumber

protected def neg : Exact → Exact
  | notANumber => notANumber
  | negativeInfinity => infinity
  | finite q => finite (-q)
  | infinity => negativeInfinity

protected def add : Exact → Exact → Exact
  | finite a, finite b => finite (a + b)
  | notANumber, _ | _, notANumber => notANumber
  | infinity, negativeInfinity | negativeInfinity, infinity => notANumber
  | infinity, _ | _, infinity => infinity
  | negativeInfinity, _ | _, negativeInfinity => negativeInfinity

protected def mul : Exact → Exact → Exact
  | finite a, finite b => finite (a * b)
  | a, b => ofSign (a.sign * b.sign)

protected def div : Exact → Exact → Exact
  | finite a, finite b => if b = 0 then ofSign a.num.sign else finite (a / b)
  | finite _, infinity | finite _, negativeInfinity => finite 0
  | a, finite b => ofSign (a.sign * if b < 0 then -1 else 1)
  | _, _ => notANumber

def below : Exact → Exact → Bool
  | finite a, finite b => decide (a < b)
  | notANumber, _ | _, notANumber => false
  | _, negativeInfinity | infinity, _ => false
  | negativeInfinity, _ | _, infinity => true

protected def modulus : Exact → Exact
  | finite q => finite (if q < 0 then -q else q)
  | negativeInfinity => infinity
  | x => x

def naturalRoot? (n : Nat) : Option Nat := (List.range (n + 1)).find? fun k => k * k == n

protected def sqrt : Exact → Exact
  | finite q =>
    match naturalRoot? q.num.natAbs, naturalRoot? q.den with
    | some a, some b => if q < 0 then notANumber else finite (mkRat a b)
    | _, _ => notANumber
  | infinity => infinity
  | _ => notANumber

protected def power (x : Exact) : Nat → Exact
  | 0 => finite 1
  | 1 => x
  | n + 2 => Exact.mul (x.power (n + 1)) x

def reading : Exact → Reading
  | notANumber => .notANumber
  | negativeInfinity => .infinite true
  | infinity => .infinite false
  | finite q => .finite (decide (q < 0)) q.num.natAbs q.den

def write : Exact → String
  | notANumber => "nan"
  | negativeInfinity => "-inf"
  | infinity => "inf"
  | finite q => if q.den = 1 then s!"{q.num}.0" else s!"{q.num}/{q.den}"

end Exact

instance : Scalar Exact where
  add := Exact.add
  sub a b := Exact.add a (Exact.neg b)
  mul := Exact.mul
  div := Exact.div
  neg := Exact.neg
  ofScientific m negative e := .finite (Rat.ofScientific m negative e)
  less := Exact.below
  atMost a b := a.isNumber && b.isNumber && !Exact.below b a
  equal a b := a.isNumber && a == b
  modulus := Exact.modulus
  sqrt := Exact.sqrt
  power := Exact.power
  infinity := .infinity
  notANumber := .notANumber
  reading := Exact.reading
  shortest := Exact.write
  infinities_ordered := rfl

namespace Exact

theorem isNaN_iff (x : Exact) : Scalar.isNaN x = true ↔ x = notANumber := by
  cases x <;> simp [Scalar.isNaN, Scalar.equal, isNumber]

theorem isFinite_iff (x : Exact) : Scalar.isFinite x = true ↔ ∃ q, x = finite q := by
  cases x <;> simp [Scalar.isFinite, Scalar.less, Scalar.infinity, Neg.neg, Exact.neg, below]

end Exact

end NonlinearProgram
