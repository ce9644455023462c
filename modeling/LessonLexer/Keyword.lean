/-!
# Keywords

The reserved words of the language that are keywords of their own: those of statements, the three
logical operators, and two proper names.  The truth values are reserved words as well, but they
are literals and not keywords.
-/

namespace LessonLexer

/-- The keywords. -/
inductive Keyword where
  | switch | case_ | default | break_
  | if_ | elif | else_ | while_ | for_ | in_ | range
  | def_ | class_ | return_ | continue_ | pass
  | and | or | not
  | customName | customFirstName
deriving DecidableEq

namespace Keyword

/-- The keywords of statements. -/
def statements : List Keyword :=
  [.switch, .case_, .default, .break_, .if_, .elif, .else_, .while_, .for_, .in_, .range,
    .def_, .class_, .return_, .continue_, .pass]

/-- The keywords that are logical operators. -/
def logical : List Keyword := [.and, .or, .not]

/-- The keywords that are proper names. -/
def properNames : List Keyword := [.customName, .customFirstName]

/-- How a keyword is spelled in the source text. -/
def spelling : Keyword → String
  | .switch => "switch"
  | .case_ => "case"
  | .default => "default"
  | .break_ => "break"
  | .if_ => "if"
  | .elif => "elif"
  | .else_ => "else"
  | .while_ => "while"
  | .for_ => "for"
  | .in_ => "in"
  | .range => "range"
  | .def_ => "def"
  | .class_ => "class"
  | .return_ => "return"
  | .continue_ => "continue"
  | .pass => "pass"
  | .and => "and"
  | .or => "or"
  | .not => "not"
  | .customName => "BENOUADFEL"
  | .customFirstName => "Yacine"

/-- The name under which a keyword is reported. -/
def name : Keyword → String
  | .switch => "SWITCH"
  | .case_ => "CASE"
  | .default => "DEFAULT"
  | .break_ => "BREAK"
  | .if_ => "IF"
  | .elif => "ELIF"
  | .else_ => "ELSE"
  | .while_ => "WHILE"
  | .for_ => "FOR"
  | .in_ => "IN"
  | .range => "RANGE"
  | .def_ => "DEF"
  | .class_ => "CLASS"
  | .return_ => "RETURN"
  | .continue_ => "CONTINUE"
  | .pass => "PASS"
  | .and => "AND"
  | .or => "OR"
  | .not => "NOT"
  | .customName => "CUSTOM_NAME"
  | .customFirstName => "CUSTOM_FIRSTNAME"

end Keyword
end LessonLexer
