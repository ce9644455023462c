import LessonLexer.Keyword
import LessonLexer.Symbol

/-!
# Kinds of tokens

Every token has one of fifty-six kinds: a keyword, a symbol, an identifier, one of four kinds of
literal, or one of a few marks.  The kinds are numbered from one in a fixed order.

## Main names

* `LessonLexer.Kind`: the kinds.
* `LessonLexer.Kind.all`: the kinds in the order of their numbers.
* `LessonLexer.Kind.reserved`: the reserved words and their kinds.
* `LessonLexer.Kind.ofWord`: the kind of a word of the source text.
-/

namespace LessonLexer

/-- The kinds of tokens. -/
inductive Kind where
  | keyword (word : Keyword)
  | symbol (sign : Symbol)
  | identifier
  | integer
  | float
  | string
  | boolean
  | newline
  | eof
  | comment
  | error
deriving DecidableEq

namespace Kind

/-- The kinds in the order of their numbers. -/
def all : List Kind :=
  Keyword.statements.map .keyword ++ Symbol.operators.map .symbol
    ++ Keyword.logical.map .keyword ++ Symbol.delimiters.map .symbol
    ++ [.identifier, .integer, .float, .string, .boolean, .newline, .eof, .comment]
    ++ Keyword.properNames.map .keyword ++ [.error]

/-- The name of a kind. -/
def name : Kind → String
  | .keyword word => word.name
  | .symbol sign => sign.name
  | .identifier => "IDENTIFIER"
  | .integer => "INTEGER"
  | .float => "FLOAT"
  | .string => "STRING"
  | .boolean => "BOOLEAN"
  | .newline => "NEWLINE"
  | .eof => "EOF"
  | .comment => "COMMENT"
  | .error => "ERROR"

/-- The number of a kind, counted from one. -/
def number (kind : Kind) : Nat := all.idxOf kind + 1

/-- The kind with the given number. -/
def ofNumber? (n : Int) : Option Kind := if n < 1 then none else all[(n - 1).toNat]?

/-- The kind with the given name. -/
def ofName? (text : String) : Option Kind := all.find? (·.name == text)

/-- The kinds that are keywords. -/
def isKeyword : Kind → Bool
  | .keyword _ => true
  | _ => false

/-- The kinds that are literals. -/
def isLiteral : Kind → Bool
  | .integer | .float | .string | .boolean => true
  | _ => false

/-! ## Reserved words -/

/-- The reserved words and their kinds. -/
def reserved : List (String × Kind) :=
  (Keyword.statements ++ Keyword.logical).map (fun word => (word.spelling, .keyword word))
    ++ [("True", .boolean), ("False", .boolean)]
    ++ Keyword.properNames.map (fun word => (word.spelling, .keyword word))

/-- The kind of a reserved word. -/
def ofReserved? (text : String) : Option Kind := reserved.lookup text

/-- The kind of a word: its own if it is reserved, and an identifier otherwise. -/
def ofWord (text : String) : Kind := (ofReserved? text).getD .identifier

end Kind
end LessonLexer
