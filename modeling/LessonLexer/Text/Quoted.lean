import LessonLexer.Text.Hex
import LessonLexer.Text.Printable

/-!
# Quoted text

A text is written out between two delimiters so that it stands on one line and can be told from
what surrounds it.

## The rule

* The delimiter is the single quote, unless the text holds a single quote and no double quote;
  then it is the double quote.
* A backslash and the delimiter are written with a backslash before them.
* Line feed, carriage return and tab are written as a backslash and a letter.
* Any other character that is not printable is written by its code point: two, four or eight
  hexadecimal digits after a backslash and `x`, `u` or `U`.
* Everything else stands for itself.
-/

namespace LessonLexer
namespace Text

/-- The delimiter of a quoted text. -/
def delimiter (text : List Char) : Char :=
  if text.contains '\'' && !text.contains '"' then '"' else '\''

/-- A character that is not printable, by its code point. -/
def escapeByCode (c : Char) : List Char :=
  if c.toNat < 0x100 then '\\' :: 'x' :: hexPadded 2 c.toNat
  else if c.toNat < 0x10000 then '\\' :: 'u' :: hexPadded 4 c.toNat
  else '\\' :: 'U' :: hexPadded 8 c.toNat

/-- A character between two delimiters. -/
def quotedChar (delimiter c : Char) : List Char :=
  if c = '\\' ∨ c = delimiter then ['\\', c]
  else if c = '\n' then ['\\', 'n']
  else if c = '\r' then ['\\', 'r']
  else if c = '\t' then ['\\', 't']
  else if isPrintable c then [c]
  else escapeByCode c

/-- The characters of a quoted text. -/
def quotedChars (text : List Char) : List Char :=
  delimiter text :: text.flatMap (quotedChar (delimiter text)) ++ [delimiter text]

/-- A text between delimiters, escaped where it has to be. -/
def quoted (text : String) : String := String.ofList (quotedChars text.toList)

@[simp] theorem toList_quoted (text : String) : (quoted text).toList = quotedChars text.toList := by
  simp [quoted]

end Text
end LessonLexer
