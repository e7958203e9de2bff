import NonlinearProgram.Decimal.Binary
import NonlinearProgram.Decimal.Rounding

/-!
# The shortest decimal that reads back

For each count of digits only the two multiples next to the number can be the closest ones that
read back, so the search tries both for 1, 2, … digits and stops at the first hit. Seventeen
digits always suffice for binary64.
-/

namespace NonlinearProgram.Decimal

/-- The decimal with at most `count` digits that reads back and is nearest to the number, the even
one of two equally near. -/
def Neighbourhood.withDigits? (n : Neighbourhood) (count : Nat) : Option Decimal :=
  let exponent := magnitude n.value n.denominator - count
  let numerator := n.value * Nat.pow 10 (-exponent).toNat
  let denominator := n.denominator * Nat.pow 10 exponent.toNat
  let below := numerator / denominator
  match n.contains below exponent, n.contains (below + 1) exponent with
  | true, true => some ⟨roundHalfEven numerator denominator, exponent⟩
  | true, false => some ⟨below, exponent⟩
  | false, true => some ⟨below + 1, exponent⟩
  | false, false => none

/-- The shortest decimal that reads back as the number, and the nearest of those. -/
def Neighbourhood.shortest (n : Neighbourhood) : Decimal :=
  ((List.range 17).findSome? fun i => n.withDigits? (i + 1)).getD
    (significant n.value n.denominator 17)

end NonlinearProgram.Decimal
