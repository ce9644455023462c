import LessonLexer.Text.Quoted

/-!
# Failures

The requests that cannot be met, each with its cause, and the words in which it is reported.
Lexical errors in a source text are no failures: they are recorded as diagnostics and the pass
goes on.
-/

namespace LessonLexer

/-- Why a request cannot be met. -/
inductive Failure where
  /-- A character was asked for where the text has none. -/
  | outsideText
  /-- A literal has the shape of a number and no digits. -/
  | notANumber (lexeme : String)
  /-- The code point was asked of a text that is not a single character. -/
  | notOneCharacter (length : Nat)
  /-- No kind of token has the name. -/
  | unknownKind (name : String)
  /-- No kind of token has the number. -/
  | unknownNumber (number : Int)
  /-- A field of a token or of a location cannot be changed. -/
  | fixedField (name : String)
deriving DecidableEq

/-- The words in which a failure is reported. -/
def Failure.message : Failure → String
  | .outsideText => "string index out of range"
  | .notANumber lexeme => "could not convert string to float: " ++ Text.quoted lexeme
  | .notOneCharacter length =>
    "ord() expected a character, but string of length " ++ length.repr ++ " found"
  | .unknownKind name => Text.quoted name
  | .unknownNumber number => number.repr ++ " is not a valid TokenType"
  | .fixedField name => "cannot assign to field " ++ Text.quoted name

end LessonLexer
