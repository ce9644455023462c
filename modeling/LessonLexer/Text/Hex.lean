/-!
# Hexadecimal digits

Code points are written in base sixteen in two places: escapes of a quoted text have a fixed
width and small letters, and the description of an invisible character has at least four digits
and capital letters.
-/

namespace LessonLexer
namespace Text

/-- The last `width` hexadecimal digits of a number, in small letters. -/
def hexPadded : Nat → Nat → List Char
  | 0, _ => []
  | width + 1, n => hexPadded width (n / 16) ++ [Nat.digitChar (n % 16)]

@[simp] theorem length_hexPadded (width n : Nat) : (hexPadded width n).length = width := by
  induction width generalizing n with
  | zero => rfl
  | succ width ih => simp [hexPadded, ih]

/-- The number of hexadecimal digits that a code point is written with, four at the least. -/
def codePointWidth (n : Nat) : Nat :=
  if n < 0x10000 then 4 else if n < 0x100000 then 5 else 6

/-- A code point in the customary form: `U+` and at least four capital hexadecimal digits. -/
def codePoint (c : Char) : String :=
  "U+" ++ String.ofList ((hexPadded (codePointWidth c.toNat) c.toNat).map Char.toUpper)

end Text
end LessonLexer
