import NonlinearProgram.Decimal.Rounding
import NonlinearProgram.Scalar

/-!
# Layouts of written numbers

Which digits a number has is settled elsewhere; a `Layout` says how they stand on the page: when
the exponent is written out, whether a whole number keeps its point, and whether trailing zeros
are kept.
-/

namespace NonlinearProgram

/-- The decisions of a number format. An exponent, where written, has a sign and at least two
digits. -/
structure Layout where
  /-- The powers of ten, from the first up to but not including the second, that are written
  positionally. -/
  positional : Int × Int
  /-- Whether a whole number written positionally ends in a point and a zero. -/
  pointed : Bool
  /-- Whether trailing zeros of the digits are kept. -/
  padded : Bool

namespace Layout

def zeros (count : Nat) : List Char := List.replicate count '0'

def stripped (digits : List Char) : List Char :=
  match (digits.reverse.dropWhile (· == '0')).reverse with
  | [] => ['0']
  | rest => rest

/-- The digits `d₀d₁…` as the number `d₀.d₁… * 10 ^ power`, written without an exponent. -/
def writePositional (pointed : Bool) (digits : List Char) (power : Int) : List Char :=
  if power < 0 then '0' :: '.' :: zeros (-power - 1).toNat ++ digits
  else
    let whole := power.toNat + 1
    if digits.length ≤ whole then
      digits ++ zeros (whole - digits.length) ++ (if pointed then ['.', '0'] else [])
    else digits.take whole ++ '.' :: digits.drop whole

def writePower (power : Int) : List Char :=
  let magnitude := Nat.toDigits 10 power.natAbs
  'e' :: (if power < 0 then '-' else '+') :: zeros (2 - magnitude.length) ++ magnitude

def writeExponential (digits : List Char) (power : Int) : List Char :=
  match digits with
  | [] => []
  | [first] => first :: writePower power
  | first :: rest => first :: '.' :: rest ++ writePower power

def write (layout : Layout) (d : Decimal) : List Char :=
  let all := Nat.toDigits 10 d.digits
  let power := if d.digits = 0 then 0 else d.exponent + all.length - 1
  let digits := if layout.padded then all else stripped all
  if layout.positional.1 ≤ power ∧ power < layout.positional.2 then
    writePositional layout.pointed digits power
  else writeExponential digits power

def signed (negative : Bool) (text : List Char) : String :=
  String.ofList (if negative then '-' :: text else text)

/-- A number in a layout; `digits` chooses the decimal of a positive fraction, and `zero` stands for
zero. -/
def writeReading (layout : Layout) (digits : Nat → Nat → Decimal) (zero : List Char) :
    Reading → String
  | .notANumber => "nan"
  | .infinite negative => signed negative ['i', 'n', 'f']
  | .finite negative numerator denominator =>
    signed negative (if numerator = 0 then zero else layout.write (digits numerator denominator))

/-- Numbers that must read back: positional from 0.0001 up to below 10^16, with a point always. -/
def exact : Layout := ⟨(-4, 16), true, false⟩

/-- Numbers to at most `count` significant digits: positional from 0.0001 as long as no digit before
the point is made up, and no trailing zeros. -/
def general (count : Nat) : Layout := ⟨(-4, count), false, false⟩

def exponential : Layout := ⟨(0, 0), false, true⟩

end Layout

namespace Scalar

variable {α : Type} [Scalar α]

def general (count : Nat) (x : α) : String :=
  (Layout.general count).writeReading (Decimal.significant · · count) ['0'] (reading x)

/-- A number with one digit before the point, `places` after it, and an exponent. -/
def exponential (places : Nat) (x : α) : String :=
  Layout.exponential.writeReading (Decimal.significant · · (places + 1))
    (Layout.writeExponential (Layout.zeros (places + 1)) 0) (reading x)

end Scalar

end NonlinearProgram
