import LessonLexer.Binary64.Shortest
import LessonLexer.Numeral

/-!
# The text of a floating-point number

A number is written with the fewest digits that read back.  From `10 ^ (-4)` to below `10 ^ 16`
it is written positionally, with at least one digit on either side of the point; outside of this
range it has one digit before the point, and an exponent with a sign and at least two digits.
The reader takes either form, with or without a point.

## Main names

* `LessonLexer.Binary64.text`: the written form.
* `LessonLexer.Binary64.ofText?`: the number that a text denotes, correctly rounded.
-/

namespace LessonLexer
namespace Binary64

/-! ## Writing -/

/-- The significant digits of a decimal and the place of its point: the value is
`0.d₁d₂… * 10 ^ point`. -/
def significant (d : Decimal) : List Char × Int :=
  let digits := Nat.toDigits 10 d.coefficient
  ((digits.reverse.dropWhile (· == '0')).reverse, digits.length + d.exponent)

/-- The positional form: at least one digit on either side of the point. -/
def positional (digits : List Char) (point : Int) : List Char :=
  if point ≤ 0 then '0' :: '.' :: List.replicate (-point).toNat '0' ++ digits
  else if digits.length ≤ point then
    digits ++ List.replicate (point.toNat - digits.length) '0' ++ ['.', '0']
  else digits.take point.toNat ++ '.' :: digits.drop point.toNat

/-- An exponent: its sign and at least two digits. -/
def exponentText (exponent : Int) : List Char :=
  let digits := Nat.toDigits 10 exponent.natAbs
  (if exponent < 0 then '-' else '+') :: List.replicate (2 - digits.length) '0' ++ digits

/-- The form with an exponent: one digit before the point, which is left out if nothing
follows it. -/
def scientific (digits : List Char) (exponent : Int) : List Char :=
  let fraction := digits.drop 1
  digits.take 1 ++ (if fraction = [] then [] else '.' :: fraction) ++ 'e' :: exponentText exponent

/-- The written form of a count of units. -/
def unitsText (units : Nat) : List Char :=
  if units = 0 then ['0', '.', '0']
  else
    let (digits, point) := significant (shortest units)
    if -4 < point ∧ point ≤ 16 then positional digits point else scientific digits (point - 1)

/-- The written form of a number. -/
def text : Binary64 → String
  | .finite negative units => String.ofList ((if negative then ['-'] else []) ++ unitsText units)
  | .infinite negative => if negative then "-inf" else "inf"
  | .nan => "nan"

/-! ## Reading -/

/-- A sign, if there is one, and what follows it. -/
def splitSign : List Char → Bool × List Char
  | '-' :: rest => (true, rest)
  | '+' :: rest => (false, rest)
  | text => (false, text)

/-- The exponent that a text denotes; no text at all stands for zero. -/
def readExponent? : List Char → Option Int
  | [] => some 0
  | mark :: text =>
    let (negative, digits) := splitSign text
    if (mark = 'e' ∨ mark = 'E') ∧ digits ≠ [] ∧ digits.all Char.isDigit then
      let size : Int := Numeral.ofChars digits
      some (if negative then -size else size)
    else none

/-- A decimal of the same rounding whose exponent is of moderate size: beyond `10 ^ 400` every
decimal overflows, and below `10 ^ (-400)` every decimal rounds to zero. -/
def moderate (d : Decimal) : Decimal :=
  if d.coefficient = 0 then ⟨0, 0⟩
  else if 400 < d.exponent then ⟨1, 400⟩
  else if decimalLength d.coefficient + d.exponent < -400 then ⟨0, 0⟩
  else d

/-- The decimal that an unsigned text denotes: digits, at most one point, perhaps an exponent. -/
def readDecimal? (text : List Char) : Option Decimal :=
  let whole := text.takeWhile Char.isDigit
  let rest := text.dropWhile Char.isDigit
  let fraction := if rest.head? = some '.' then rest.tail.takeWhile Char.isDigit else []
  let tail := if rest.head? = some '.' then rest.tail.dropWhile Char.isDigit else rest
  if whole ++ fraction = [] then none
  else (readExponent? tail).map fun exponent =>
    ⟨Numeral.ofChars (whole ++ fraction), exponent - fraction.length⟩

/-- The number that a text denotes, correctly rounded. -/
def ofText? (text : String) : Option Binary64 :=
  let (negative, rest) := splitSign text.toList
  if rest = "inf".toList then some (.infinite negative)
  else if rest = "nan".toList then some .nan
  else (readDecimal? rest).map fun d => ofDecimal negative (moderate d)

end Binary64
end LessonLexer
