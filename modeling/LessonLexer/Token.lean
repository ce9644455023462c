import LessonLexer.Failure
import LessonLexer.Kind
import LessonLexer.Location
import LessonLexer.Value

/-!
# Tokens

A token has a kind, a lexeme, a value and the location of its first character.  The lexeme is the
source text of the token, except that a string literal has its content as lexeme and a line break
has a visible stand-in.

## Main names

* `LessonLexer.Token`: the tokens, with a short and a detailed written form.
* `LessonLexer.Token.flags`: which of the classes keyword, literal, operator and identifier hold.
* `LessonLexer.Token.same`: equality of tokens, which compares values by their worth.
-/

namespace LessonLexer

/-- A token of the source text. -/
structure Token where
  kind : Kind
  lexeme : String
  value : Value
  location : Location
deriving DecidableEq

namespace Token

/-- The short form: kind and lexeme. -/
def summary (t : Token) : String := t.kind.name ++ "(" ++ Text.quoted t.lexeme ++ ")"

/-- The detailed form: kind, lexeme, value and location. -/
def detail (t : Token) : String :=
  "Token(" ++ t.kind.name ++ ", " ++ Text.quoted t.lexeme ++ ", " ++ t.value.written ++ ", "
    ++ t.location.detail ++ ")"

/-! ## Classes -/

/-- Whether a token is a keyword. -/
def isKeyword (t : Token) : Bool := t.kind.isKeyword

/-- Whether a token is a literal. -/
def isLiteral (t : Token) : Bool := t.kind.isLiteral

/-- Whether a token is an operator or delimiter: its lexeme spells a symbol, and that symbol is
its kind. -/
def isOperator (t : Token) : Bool :=
  match Symbol.ofSpelling? t.lexeme with
  | some sign => t.kind == .symbol sign
  | none => false

/-- Whether a token is an identifier. -/
def isIdentifier (t : Token) : Bool := t.kind == .identifier

/-- The classes that hold of a token, a letter for each. -/
def flags (t : Token) : String :=
  (if t.isKeyword then "k" else "") ++ (if t.isLiteral then "l" else "")
    ++ (if t.isOperator then "o" else "") ++ (if t.isIdentifier then "i" else "")

/-! ## Equality and change -/

/-- Equality of tokens: everything agrees, values being compared by their worth. -/
def same (a b : Token) : Bool :=
  a.kind == b.kind && a.lexeme == b.lexeme && a.value.same b.value && a.location == b.location

/-- The number of different tokens among two. -/
def distinct (a b : Token) : Nat := if a.same b then 1 else 2

/-- Equality of lists of tokens. -/
def sameList (first second : List Token) : Bool := first.isEqv second same

/-- Tokens and locations are fixed: no field can be given a new value. -/
def assign (_ : Token) (field : String) : Except Failure Token := .error (.fixedField field)

end Token
end LessonLexer
