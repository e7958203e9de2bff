import NonlinearProgram.Decimal.Layout
import NonlinearProgram.Decimal.Shortest

/-!
# The machine's scalars

Binary64 numbers. Arithmetic and comparisons are the machine's; the sign, the exact value and the
shortest text are read off the 64-bit word.
-/

namespace NonlinearProgram

namespace Machine

def isNegative (x : Float) : Bool := x.toBits >>> 63 == 1

def reading (x : Float) : Reading :=
  if x.isNaN then .notANumber
  else if x.isInf then .infinite (isNegative x)
  else
    let n := Decimal.Neighbourhood.ofBits x.toBits
    .finite (isNegative x) n.value n.denominator

/-- The fewest digits that read back, in the layout of numbers that must read back. -/
def shortest (x : Float) : String :=
  Layout.exact.writeReading
    (fun _ _ => (Decimal.Neighbourhood.ofBits x.toBits).shortest) ['0', '.', '0'] (reading x)

/-- The number nearest to `digits * 10 ^ exponent`, or to `digits / 10 ^ exponent` when negative.
Exponents beyond the range of binary64 are not raised to. -/
def ofDecimal (digits : Nat) (negative : Bool) (exponent : Nat) : Float :=
  if digits = 0 then 0.0
  else if !negative && 310 < exponent then 1.0 / 0.0
  else if negative && digits.log2 + 400 < exponent then 0.0
  else OfScientific.ofScientific digits negative exponent

end Machine

instance : Scalar Float where
  ofScientific := Machine.ofDecimal
  less a b := decide (a < b)
  atMost a b := decide (a ≤ b)
  equal a b := a == b
  modulus := Float.abs
  sqrt := Float.sqrt
  power x n := Float.pow x (Float.ofNat n)
  infinity := 1.0 / 0.0
  notANumber := 0.0 / 0.0
  reading := Machine.reading
  shortest := Machine.shortest
  infinities_ordered := by decide +kernel

end NonlinearProgram
