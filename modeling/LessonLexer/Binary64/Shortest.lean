import LessonLexer.Binary64.Basic

/-!
# The shortest decimal that reads back

Among the decimals that round to a given finite number, one with the fewest significant digits
is chosen, and of several the one closest to the number.

## The search

For one digit, two digits, and so on up to seventeen, the number lies between two neighbours on
the grid of decimals with so many digits.  If any decimal of the grid rounds to the number, then
one of these two does.  The first grid with a hit gives the answer; of two hits the nearer one is
taken, and the even one when both are equally near.  Seventeen digits always suffice.
-/

namespace LessonLexer
namespace Binary64

/-- The number of decimal digits of a natural number.  Since `10 ^ 1233` is just below `2 ^ 4096`,
the number of bits gives a lower bound that is hardly ever off by more than one. -/
def decimalLength (n : Nat) : Nat :=
  let bound := n.log2 * 1233 / 4096
  if n < Nat.pow 10 (bound + 1) then bound + 1
  else if n < Nat.pow 10 (bound + 2) then bound + 2
  else (Nat.toDigits 10 n).length

/-- The exponent `k` for which a positive count of units lies from `10 ^ (k - 1)` to below
`10 ^ k`.  Every finite number times `10 ^ 400` has a whole part, whose length gives the answer. -/
def magnitude (units : Nat) : Int :=
  decimalLength (units * Nat.pow 10 400 / unitsPerOne) - 400

/-- A count of units measured in `10 ^ exponent`, as a quotient. -/
def measure (units : Nat) (exponent : Int) : Nat × Nat :=
  (units * Nat.pow 10 (-exponent).toNat, unitsPerOne * Nat.pow 10 exponent.toNat)

/-- Whether a decimal rounds to a count of units. -/
def readsBack (units : Nat) (d : Decimal) : Bool := nearestUnits d.num d.den == units

/-- The best decimal on the grid of multiples of `10 ^ exponent`, if one of the two neighbours
rounds to the count of units. -/
def onGrid? (units : Nat) (exponent : Int) : Option Decimal :=
  let (num, den) := measure units exponent
  let lower : Decimal := ⟨num / den, exponent⟩
  let upper : Decimal := ⟨num / den + 1, exponent⟩
  let nearer : Decimal := ⟨roundDiv num den, exponent⟩
  if readsBack units lower then
    if readsBack units upper then some nearer else some lower
  else
    if readsBack units upper then some upper else none

/-- The exact value of a count of units. -/
def exactDecimal (units : Nat) : Decimal := ⟨units * Nat.pow 5 1074, -1074⟩

/-- The decimal with the fewest digits that rounds to a positive count of units. -/
def shortest (units : Nat) : Decimal :=
  let k := magnitude units
  ((List.range 17).findSome? fun (n : Nat) => onGrid? units (k - (n + 1))).getD (exactDecimal units)

end Binary64
end LessonLexer
