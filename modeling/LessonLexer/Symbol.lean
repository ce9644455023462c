/-!
# Symbols

The operators and delimiters of the language.  Most are one character; some operators are two,
and then the first character alone may or may not be an operator too.  A bare exclamation mark is
none.

## Main names

* `LessonLexer.Symbol`: the symbols, with their spelling and the name they are reported under.
* `LessonLexer.Compound`: what a character that can begin a longer operator may turn into.
* `LessonLexer.Symbol.read?`: the longest symbol at the beginning of a text.
-/

namespace LessonLexer

/-- The operators and delimiters. -/
inductive Symbol where
  | plus | minus | multiply | divide | modulo
  | assign | plusAssign | minusAssign | increment | decrement
  | equal | notEqual | less | lessEqual | greater | greaterEqual
  | leftParen | rightParen | leftBrace | rightBrace | leftBracket | rightBracket
  | comma | colon | semicolon | dot
deriving DecidableEq

namespace Symbol

/-- The symbols that combine values or assign them. -/
def operators : List Symbol :=
  [.plus, .minus, .multiply, .divide, .modulo,
    .assign, .plusAssign, .minusAssign, .increment, .decrement,
    .equal, .notEqual, .less, .lessEqual, .greater, .greaterEqual]

/-- The symbols that enclose and separate. -/
def delimiters : List Symbol :=
  [.leftParen, .rightParen, .leftBrace, .rightBrace, .leftBracket, .rightBracket,
    .comma, .colon, .semicolon, .dot]

/-- All symbols, operators first. -/
def all : List Symbol := operators ++ delimiters

theorem mem_all (s : Symbol) : s ∈ all := by cases s <;> decide

/-- The characters of a symbol. -/
def chars : Symbol → List Char
  | .plus => ['+']
  | .minus => ['-']
  | .multiply => ['*']
  | .divide => ['/']
  | .modulo => ['%']
  | .assign => ['=']
  | .plusAssign => ['+', '=']
  | .minusAssign => ['-', '=']
  | .increment => ['+', '+']
  | .decrement => ['-', '-']
  | .equal => ['=', '=']
  | .notEqual => ['!', '=']
  | .less => ['<']
  | .lessEqual => ['<', '=']
  | .greater => ['>']
  | .greaterEqual => ['>', '=']
  | .leftParen => ['(']
  | .rightParen => [')']
  | .leftBrace => ['{']
  | .rightBrace => ['}']
  | .leftBracket => ['[']
  | .rightBracket => [']']
  | .comma => [',']
  | .colon => [':']
  | .semicolon => [';']
  | .dot => ['.']

theorem chars_ne_nil (s : Symbol) : s.chars ≠ [] := by cases s <;> decide

/-- No two symbols have the same characters. -/
theorem chars_injective {s t : Symbol} (h : s.chars = t.chars) : s = t := by
  have all_distinct : ∀ s ∈ all, ∀ t ∈ all, s.chars = t.chars → s = t := by decide
  exact all_distinct s (mem_all s) t (mem_all t) h

/-- How a symbol is spelled in the source text. -/
def spelling (s : Symbol) : String := String.ofList s.chars

/-- The symbol with the given characters. -/
def ofChars? (text : List Char) : Option Symbol := all.find? (·.chars == text)

/-- The symbol with the given spelling. -/
def ofSpelling? (text : String) : Option Symbol := ofChars? text.toList

/-- The name under which a symbol is reported. -/
def name : Symbol → String
  | .plus => "PLUS"
  | .minus => "MINUS"
  | .multiply => "MULTIPLY"
  | .divide => "DIVIDE"
  | .modulo => "MODULO"
  | .assign => "ASSIGN"
  | .plusAssign => "PLUS_ASSIGN"
  | .minusAssign => "MINUS_ASSIGN"
  | .increment => "INCREMENT"
  | .decrement => "DECREMENT"
  | .equal => "EQUAL"
  | .notEqual => "NOT_EQUAL"
  | .less => "LESS"
  | .lessEqual => "LESS_EQUAL"
  | .greater => "GREATER"
  | .greaterEqual => "GREATER_EQUAL"
  | .leftParen => "LPAREN"
  | .rightParen => "RPAREN"
  | .leftBrace => "LBRACE"
  | .rightBrace => "RBRACE"
  | .leftBracket => "LBRACKET"
  | .rightBracket => "RBRACKET"
  | .comma => "COMMA"
  | .colon => "COLON"
  | .semicolon => "SEMICOLON"
  | .dot => "DOT"

end Symbol

/-! ## Operators of two characters -/

/-- What a character that can begin a longer operator turns into: followed by an equals sign,
followed by itself, and alone. -/
structure Compound where
  first : Char
  withEqual : Symbol
  doubled : Option Symbol
  single : Option Symbol

namespace Compound

/-- The characters that can begin a longer operator. -/
def all : List Compound :=
  [ ⟨'+', .plusAssign, some .increment, some .plus⟩,
    ⟨'-', .minusAssign, some .decrement, some .minus⟩,
    ⟨'=', .equal, none, some .assign⟩,
    ⟨'!', .notEqual, none, none⟩,
    ⟨'<', .lessEqual, none, some .less⟩,
    ⟨'>', .greaterEqual, none, some .greater⟩ ]

/-- What a character can turn into, if it can begin a longer operator. -/
def ofChar? (c : Char) : Option Compound := all.find? (·.first == c)

/-- The symbol that a compound begins, by the character after its first one. -/
def resolve (op : Compound) (next : Option Char) : Option Symbol :=
  if next = some '=' then some op.withEqual
  else if next = some op.first ∧ op.doubled.isSome then op.doubled
  else op.single

end Compound

/-- Every entry says the truth about the characters of its operators. -/
theorem Compound.chars_of_mem_all {op : Compound} (h : op ∈ Compound.all) :
    op.withEqual.chars = [op.first, '='] ∧
      (∀ s ∈ op.doubled, s.chars = [op.first, op.first]) ∧
      ∀ s ∈ op.single, s.chars = [op.first] := by
  simp only [Compound.all, List.mem_cons, List.not_mem_nil, or_false] at h
  rcases h with rfl | rfl | rfl | rfl | rfl | rfl <;> simp [Symbol.chars]

/-- A compound turns into a symbol that begins with it and goes on with the next character. -/
theorem Compound.chars_resolve {op : Compound} (h : op ∈ Compound.all) {next : Option Char}
    {s : Symbol} (hs : op.resolve next = some s) :
    s.chars = [op.first] ∨ ∃ d, next = some d ∧ s.chars = [op.first, d] := by
  obtain ⟨hequal, hdoubled, hsingle⟩ := Compound.chars_of_mem_all h
  unfold Compound.resolve at hs
  split at hs
  · rename_i hnext
    obtain rfl := Option.some.inj hs
    exact Or.inr ⟨'=', hnext, hequal⟩
  · split at hs
    · rename_i hnext
      exact Or.inr ⟨op.first, hnext.1, hdoubled s hs⟩
    · exact Or.inl (hsingle s hs)

namespace Symbol

theorem chars_of_ofChars? {text : List Char} {s : Symbol} (h : ofChars? text = some s) :
    s.chars = text := by
  simpa using List.find?_some h

/-- The symbol at the beginning of a text, decided by its first two characters. -/
def read? : List Char → Option Symbol
  | [] => none
  | c :: rest =>
    match Compound.ofChar? c with
    | some op => op.resolve rest.head?
    | none => ofChars? [c]

/-- A symbol that is read stands at the beginning of the text. -/
theorem chars_append_drop {text : List Char} {s : Symbol} (h : read? text = some s) :
    s.chars ++ text.drop s.chars.length = text := by
  cases text with
  | nil => simp [read?] at h
  | cons c rest =>
    rw [read?] at h
    split at h
    · rename_i op hop
      have hmem : op ∈ Compound.all := List.mem_of_find?_eq_some hop
      have hfirst : op.first = c := by simpa using List.find?_some hop
      rcases Compound.chars_resolve hmem h with hchars | ⟨d, hnext, hchars⟩
      · simp [hchars, hfirst]
      · cases rest with
        | nil => simp at hnext
        | cons e rest =>
          obtain rfl : e = d := by simpa using hnext
          simp [hchars, hfirst]
    · simp [chars_of_ofChars? h]

end Symbol
end LessonLexer
