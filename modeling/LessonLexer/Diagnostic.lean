import LessonLexer.Failure
import LessonLexer.Location
import LessonLexer.Text.UpperCase

/-!
# Diagnostics

A diagnostic records one problem and where it happened.  It has a form of one line, which gives
line, column and message, and a rendered form of several lines with the file, a help text and
suggestions.  Two problems can arise in a source text: a character that begins no token, and a
string literal that is not closed.

## Main names

* `LessonLexer.Diagnostic`: the record, with its two written forms.
* `LessonLexer.Fault`: the two lexical errors, and `LessonLexer.Fault.diagnostic`: their records.
* `LessonLexer.Diagnostic.ofInvalidText`: the record of an invalid piece of text of any length,
  which fails where the text has no single code point to name.
-/

namespace LessonLexer

/-- The record of a problem. -/
structure Diagnostic where
  message : String
  location : Location
  severity : String
  code : Option String
  help : Option String
  suggestions : Option (List String)
deriving DecidableEq

namespace Diagnostic

/-! ## Written forms -/

/-- The pattern of a line: where a problem is and what it is. -/
def pattern (line column message : String) : String :=
  "Erreur lexicale ligne " ++ line ++ ", colonne " ++ column ++ ": " ++ message

/-- The form of one line. -/
def line (d : Diagnostic) : String :=
  pattern d.location.line.repr d.location.column.repr d.message

/-- The help text of a rendered diagnostic, if there is any. -/
def helpLines (d : Diagnostic) : String :=
  match d.help with
  | none => ""
  | some help => if help = "" then "" else "  help: " ++ help ++ "\n"

/-- The suggestions of a rendered diagnostic, if there are any. -/
def suggestionLines (d : Diagnostic) : String :=
  match d.suggestions with
  | none | some [] => ""
  | some suggestions =>
    "  suggestions:\n" ++ String.join (suggestions.map fun text => "    - " ++ text ++ "\n")

/-- The form of several lines. -/
def render (d : Diagnostic) : String :=
  Text.upper d.severity ++ "[" ++ d.code.getD "None" ++ "]: " ++ d.message ++ "\n"
    ++ "  --> " ++ d.location.summary ++ "\n" ++ d.helpLines ++ d.suggestionLines

/-- The record of a lexical error. -/
def error (message : String) (location : Location) (code help : Option String)
    (suggestions : Option (List String)) : Diagnostic :=
  { message, location, severity := "error", code, help, suggestions }

end Diagnostic

/-! ## Lexical errors -/

/-- The two errors that a source text can have. -/
inductive Fault where
  /-- A character that begins no token. -/
  | invalidCharacter (c : Char)
  /-- A string literal that reaches the end of the text, and the quote that would close it. -/
  | unterminatedString (quote : String)
deriving DecidableEq

namespace Fault

/-- The codes of the errors and their meaning. -/
def codes : List (String × String) :=
  [("L001", "Invalid character"), ("L002", "Unterminated string literal")]

/-- The meaning of an error code. -/
def meaning? (code : String) : Option String := codes.lookup code

/-- The code of an error. -/
def code : Fault → String
  | .invalidCharacter _ => "L001"
  | .unterminatedString _ => "L002"

/-- The message about an invalid piece of text. -/
def invalidMessage (text : String) : String := "Caractère invalide '" ++ text ++ "'"

/-- The message of an error. -/
def message : Fault → String
  | .invalidCharacter c => invalidMessage (String.singleton c)
  | .unterminatedString _ => "Chaîne non terminée"

/-- Spellings of this language for what other languages write with one character. -/
def alternatives : String → List String
  | "!" => ["!=", "not"]
  | "&" => ["and"]
  | "|" => ["or"]
  | _ => []

/-- The help for a visible piece of text. -/
def visibleHelp (text : String) : String :=
  "The character '" ++ text ++ "' is not valid in minipy source code."

/-- The help for an invisible character. -/
def invisibleHelp (c : Char) : String :=
  "Non-printable character (Unicode: " ++ Text.codePoint c ++ ") is not allowed."

/-- The help for an invalid character. -/
def characterHelp (c : Char) : String :=
  match alternatives (String.singleton c) with
  | [] => if Text.isPrintable c then visibleHelp (String.singleton c) else invisibleHelp c
  | spellings => "Did you mean: " ++ ", ".intercalate spellings ++ "?"

/-- The suggestions for an invalid piece of text, if there are any. -/
def suggestions? (text : String) : Option (List String) :=
  match alternatives text with
  | [] => none
  | spellings => some spellings

/-- The record of an error at a location. -/
def diagnostic : Fault → Location → Diagnostic
  | .invalidCharacter c, location =>
    .error (message (.invalidCharacter c)) location (some "L001") (some (characterHelp c))
      (suggestions? (String.singleton c))
  | .unterminatedString quote, location =>
    .error (message (.unterminatedString quote)) location (some "L002")
      (some ("String literals must be closed with a matching " ++ quote ++ " quote."))
      (some ["Add a closing " ++ quote ++ " quote", "Check for an escaped closing quote"])

@[simp] theorem code_diagnostic (fault : Fault) (location : Location) :
    (fault.diagnostic location).code = some fault.code := by
  cases fault <;> rfl

@[simp] theorem message_diagnostic (fault : Fault) (location : Location) :
    (fault.diagnostic location).message = fault.message := by
  cases fault <;> rfl

@[simp] theorem location_diagnostic (fault : Fault) (location : Location) :
    (fault.diagnostic location).location = location := by
  cases fault <;> rfl

end Fault

namespace Diagnostic

/-- The record of an invalid piece of text.  A single character is always described; a longer text,
or none at all, only if all of it is visible. -/
def ofInvalidText (text : String) (location : Location) : Except Failure Diagnostic :=
  match text.toList with
  | [c] => .ok (Fault.diagnostic (.invalidCharacter c) location)
  | chars =>
    if chars.all Text.isPrintable then
      .ok (.error (Fault.invalidMessage text) location (some "L001") (some (Fault.visibleHelp text))
        none)
    else .error (.notOneCharacter chars.length)

end Diagnostic
end LessonLexer
