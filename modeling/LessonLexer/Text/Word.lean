import LessonLexer.Text.Digit
import LessonLexer.Text.Letter

/-!
# Characters of words and blanks

A word begins with a letter or an underscore and goes on with letters, decimal digits and
underscores.  The same questions can be asked of a text: all of it has to belong to one of the
classes, and the underscore counts only when it stands alone.
-/

namespace LessonLexer
namespace Text

/-- A character that may begin a word. -/
def isWordStart (c : Char) : Bool := isLetter c || c == '_'

/-- A character that may stand in a word. -/
def isWordPart (c : Char) : Bool := isLetter c || isDigit c || c == '_'

theorem isWordPart_of_isWordStart {c : Char} (h : isWordStart c = true) : isWordPart c = true := by
  simp only [isWordStart, Bool.or_eq_true] at h
  rcases h with h | h <;> simp [isWordPart, h]

theorem isWordPart_of_isDigit {c : Char} (h : isDigit c = true) : isWordPart c = true := by
  simp [isWordPart, h]

/-- A character that separates tokens and belongs to none: space, tab or carriage return. -/
def isBlank (c : Char) : Bool := c == ' ' || c == '\t' || c == '\r'

/-- Whether a text is not empty and made of characters of one class. -/
def consistsOf (p : Char → Bool) (text : String) : Bool := text != "" && text.toList.all p

/-- Whether a text may begin a word: letters only, or the underscore. -/
def mayStartWord (text : String) : Bool := consistsOf isLetter text || text == "_"

/-- Whether a text may continue a word: letters only, digits only, or the underscore. -/
def mayContinueWord (text : String) : Bool :=
  consistsOf isLetter text || consistsOf isDigit text || text == "_"

end Text
end LessonLexer
