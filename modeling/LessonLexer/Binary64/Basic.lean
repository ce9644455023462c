import LessonLexer.Decimal

/-!
# Binary floating-point numbers of 64 bits

Every finite number of the format is a whole multiple of the smallest positive one, `2 ^ (-1074)`.
A finite number is therefore kept as its sign and a count of these units, so that rounding,
comparison and printing are arithmetic on natural numbers.

## The format in units

* One is `2 ^ 1074` units.
* A count of units fits the format when it has at most 53 significant bits and lies below
  `2 ^ 2098`, which stands for `2 ^ 1024`.  Counts below `2 ^ 53` fit as they are: they are the
  subnormal numbers and the first normal ones.
* A number whose rounded count reaches `2 ^ 2098` overflows to infinity.

## Main names

* `LessonLexer.Binary64`: the numbers, with signed zeros, infinities and the one not-a-number.
* `LessonLexer.Binary64.Fits`: the counts of units that the format can hold.
* `LessonLexer.Binary64.nearest`: the number closest to a quotient, a tie going to the even one.
* `LessonLexer.Binary64.ofDecimal`: the number closest to a decimal.
-/

namespace LessonLexer

/-- A binary floating-point number of 64 bits. -/
inductive Binary64 where
  /-- A finite number, as its sign and a count of units of `2 ^ (-1074)`. -/
  | finite (negative : Bool) (units : Nat)
  | infinite (negative : Bool)
  | nan
deriving DecidableEq

namespace Binary64

/-- The number of units in one. -/
def unitsPerOne : Nat := Nat.pow 2 1074

/-- The least count of units that is too large for a finite number. -/
def overflow : Nat := Nat.pow 2 2098

/-- The counts of units that the format holds: at most 53 significant bits, below the overflow. -/
def Fits (units : Nat) : Prop :=
  units < overflow ∧
    ∃ significand spare : Nat, significand < Nat.pow 2 53 ∧ units = significand * Nat.pow 2 spare

/-- A quotient rounded to the closest natural number, a tie going to the even one. -/
def roundDiv (num den : Nat) : Nat :=
  let quotient := num / den
  let twice := 2 * (num % den)
  if twice < den then quotient
  else if den < twice then quotient + 1
  else quotient + quotient % 2

/-- The number of bits of a count that lie beyond the 53 leading ones. -/
def spareBits (count : Nat) : Nat := count.log2 + 1 - 53

/-- The count of units closest to a quotient: the bits beyond the 53 leading ones are rounded
away, a tie going to the even significand. -/
def nearestUnits (num den : Nat) : Nat :=
  let scaled := num * unitsPerOne
  let spare := spareBits (scaled / den)
  roundDiv scaled (den * Nat.pow 2 spare) * Nat.pow 2 spare

/-- The number closest to a quotient of the given sign, a tie going to the even one. -/
def nearest (negative : Bool) (num den : Nat) : Binary64 :=
  if nearestUnits num den < overflow then .finite negative (nearestUnits num den)
  else .infinite negative

/-- The number closest to a decimal of the given sign. -/
def ofDecimal (negative : Bool) (d : Decimal) : Binary64 := nearest negative d.num d.den

end Binary64
end LessonLexer
