/-!
# Release

The version of the lexer and the terms it is released under, as they are reported.
-/

namespace LessonLexer

/-- The version. -/
def version : String := "0.1.0"

/-- The terms of release. -/
def license : String := "MIT"

end LessonLexer
