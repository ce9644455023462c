import LessonLexer.Text.Digit

/-!
# Numerals

A numeral is a run of decimal digits, which may come from different scripts.  It denotes a
natural number in base ten.  An integer literal has a value only up to a fixed number of digits,
and leading zeros count towards that number.

## Main names

* `LessonLexer.Numeral.value`: the number that a list of digit values denotes.
* `LessonLexer.Numeral.ofChars`: the number that a run of digits denotes.
* `LessonLexer.Numeral.natural?`: the value of an integer literal, if it has one.
-/

namespace LessonLexer
namespace Numeral

/-- The number that digit values denote in base ten, the first digit weighing most. -/
def value (digits : List Nat) : Nat :=
  digits.foldl (fun total digit => 10 * total + digit) 0

/-- One more digit at the end shifts the others up by one place. -/
@[simp] theorem value_append_singleton (digits : List Nat) (digit : Nat) :
    value (digits ++ [digit]) = 10 * value digits + digit := by
  simp [value]

/-- The number that a run of digits denotes. -/
def ofChars (text : List Char) : Nat := value (text.filterMap Text.digit?)

/-- The largest number of digits of an integer literal that has a value. -/
def digitLimit : Nat := 4300

/-- The value of an integer literal: none without a digit or beyond the limit. -/
def natural? (text : List Char) : Option Nat :=
  if text = [] ∨ digitLimit < text.length then none else some (ofChars text)

end Numeral
end LessonLexer
