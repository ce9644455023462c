/-!
# Decimal fractions

A decimal is a coefficient and a power of ten.  It denotes an exact rational number, which is
also available as a quotient of two natural numbers.
-/

namespace LessonLexer

/-- The number `coefficient * 10 ^ exponent`. -/
structure Decimal where
  coefficient : Nat
  exponent : Int
deriving DecidableEq

namespace Decimal

/-- The numerator of a decimal as a quotient. -/
def num (d : Decimal) : Nat := d.coefficient * Nat.pow 10 d.exponent.toNat

/-- The denominator of a decimal as a quotient, a power of ten. -/
def den (d : Decimal) : Nat := Nat.pow 10 (-d.exponent).toNat

end Decimal
end LessonLexer
