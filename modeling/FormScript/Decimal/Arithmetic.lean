import FormScript.Decimal.Binary64

/-!
# Products and quotients

The product and the quotient of two magnitudes, each rounded once from the exact result.
-/

namespace FormScript.Decimal.Magnitude

/-- The magnitude nearest to a product, or none where it overflows. -/
def mul? (a b : Magnitude) : Option Magnitude := ofRatio (a.scaled * b.scaled) (unit * unit)

/-- The magnitude nearest to a quotient, or none where it overflows; the divisor is not zero. -/
def div? (a b : Magnitude) : Option Magnitude := ofRatio a.scaled b.scaled

end FormScript.Decimal.Magnitude
