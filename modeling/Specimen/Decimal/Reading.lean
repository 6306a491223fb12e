import Specimen.Decimal.Shortest

/-!
# Decimal literals

The value of a decimal literal is the number nearest to the rational it
denotes. Literals may carry exponents far outside the range of any number, so
those are decided by the position of the decimal point alone and the power of
ten is never formed.
-/

namespace Specimen.Decimal

/-- The number nearest to `± coefficient · 10 ^ exponent`; infinite when it is
too large and zero when it is too small. -/
def nearest (negative : Bool) (coefficient : Nat) (exponent : Int) : Double :=
  if coefficient = 0 then Double.zero negative
  else
    let point : Int := digitCount coefficient + exponent
    if 310 < point then Double.infinity negative
    else if point < -330 then Double.zero negative
    else
      let size : Rat := coefficient * (10 : Rat) ^ exponent
      Double.ofRat negative (if negative then -size else size)

end Specimen.Decimal
