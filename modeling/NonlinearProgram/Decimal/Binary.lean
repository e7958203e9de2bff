/-!
# Decimals around a binary number

A finite binary64 number is a natural times a power of two. The decimals that read back as it lie
between the midpoints to its two neighbours, and they include the midpoints when the natural is
even. `Neighbourhood` holds the number and both midpoints over one denominator, so that membership
is a comparison of naturals.
-/

namespace NonlinearProgram.Decimal

/-- A number and the two ends of the decimals that read back as it, over a common denominator. -/
structure Neighbourhood where
  low : Nat
  value : Nat
  high : Nat
  denominator : Nat
  /-- Whether the ends themselves read back. -/
  closed : Bool
  deriving Repr

namespace Neighbourhood

/-- The neighbourhood of `mantissa * 2 ^ power`. Below a power of two the spacing halves, which
`halved` tells. -/
def ofBinary (mantissa : Nat) (power : Int) (halved : Bool) : Neighbourhood :=
  let quarter := power - 2
  let up := Nat.pow 2 quarter.toNat
  { low := (4 * mantissa - if halved then 1 else 2) * up
    value := 4 * mantissa * up
    high := (4 * mantissa + 2) * up
    denominator := Nat.pow 2 (-quarter).toNat
    closed := mantissa % 2 == 0 }

/-- The neighbourhood of the magnitude of a finite binary64 word: 52 fraction bits under 11
exponent bits, where the least exponent has no leading one. -/
def ofBits (word : UInt64) : Neighbourhood :=
  let exponent := ((word >>> 52) &&& 0x7FF).toNat
  let fraction := (word &&& 0xFFFFFFFFFFFFF).toNat
  if exponent = 0 then ofBinary fraction (-1074) false
  else
    ofBinary (0x10000000000000 + fraction) ((exponent : Int) - 1075) (fraction == 0 && 1 < exponent)

/-- Whether `digits * 10 ^ exponent` reads back as the number. -/
def contains (n : Neighbourhood) (digits : Nat) (exponent : Int) : Bool :=
  let candidate := digits * Nat.pow 10 exponent.toNat * n.denominator
  let down := Nat.pow 10 (-exponent).toNat
  (decide (n.low * down < candidate) || n.closed && n.low * down == candidate) &&
    (decide (candidate < n.high * down) || n.closed && candidate == n.high * down)

end Neighbourhood

end NonlinearProgram.Decimal
