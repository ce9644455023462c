import LessonLexer.Scan

/-!
# Passes

A pass takes a source text from its beginning to its end.  Its items are recorded one by one: a
faulty item is reported, and every item but a comment gives a token.  A token for the end of the
text closes the list.  Each report is recorded as a diagnostic and as an event of the log.

## Main names

* `LessonLexer.Event`: the events of a log, and their lines.
* `LessonLexer.Record`: what has been recorded so far.
* `LessonLexer.Pass`: the result of a pass, and `LessonLexer.pass`: the pass over a source.
* `LessonLexer.strictTokens`: the tokens of a source without errors, or else its first error.
-/

namespace LessonLexer

/-! ## The log -/

/-- An event of a pass over a file. -/
inductive Event where
  /-- The pass begins, over so many characters. -/
  | began (file : String) (characters : Nat)
  /-- An error is recorded. -/
  | reported (file : String) (diagnostic : Diagnostic)
  /-- The pass ends, with so many tokens and errors. -/
  | ended (file : String) (tokens errors : Nat)
deriving DecidableEq

/-- What an event has to tell. -/
def Event.message : Event → String
  | .began file characters => "Tokenizing " ++ file ++ " (" ++ characters.repr ++ " characters)"
  | .reported file diagnostic => file ++ ": " ++ diagnostic.line
  | .ended file tokens errors =>
    "Tokenized " ++ file ++ ": " ++ tokens.repr ++ " tokens, " ++ errors.repr ++ " errors"

/-- The line of an event in a log, with level and source of the message. -/
def Event.line (event : Event) : String := "DEBUG:minipy.lexer.lexer:" ++ event.message

/-! ## Recording -/

/-- What a pass has recorded so far. -/
structure Record where
  tokens : Array Token
  errors : Array Diagnostic
  log : Array Event

namespace Record

/-- Records an error. -/
def report (r : Record) (file : String) (diagnostic : Diagnostic) : Record :=
  { r with errors := r.errors.push diagnostic, log := r.log.push (.reported file diagnostic) }

/-- Records the error of a faulty item. -/
def check (r : Record) (file : String) (placed : Placed) : Record :=
  match placed.item.fault? with
  | some fault => r.report file (fault.diagnostic (placed.position.within file))
  | none => r

/-- Records the token of an item. -/
def emit (r : Record) (token : Token) : Record := { r with tokens := r.tokens.push token }

/-- Records an item: its error if it has one, and its token unless it is a comment. -/
def add (file : String) (r : Record) (placed : Placed) : Record :=
  match placed.item with
  | .comment _ => r.check file placed
  | item => (r.check file placed).emit (item.token (placed.position.within file))

end Record

/-! ## The pass -/

/-- The result of a pass. -/
structure Pass where
  tokens : List Token
  errors : List Diagnostic
  log : List Event
  finish : Position

/-- The token for the end of a text. -/
def endToken (location : Location) : Token :=
  { kind := .eof, lexeme := "", value := .none, location }

/-- The pass over a source text. -/
def pass (source file : String) : Pass :=
  let scanned := scan .start source.toList
  let opened : Record := { tokens := #[], errors := #[], log := #[.began file source.length] }
  let record := (scanned.items.foldl (Record.add file) opened).emit
    (endToken (scanned.finish.within file))
  { tokens := record.tokens.toList
    errors := record.errors.toList
    log := (record.log.push (.ended file record.tokens.size record.errors.size)).toList
    finish := scanned.finish }

/-- Whether a pass recorded an error. -/
def Pass.hasErrors (p : Pass) : Bool := !p.errors.isEmpty

/-- The tokens of a source without errors, or else its first error. -/
def strictTokens (source file : String) : Except Diagnostic (List Token) :=
  match (pass source file).errors with
  | [] => .ok (pass source file).tokens
  | first :: _ => .error first

end LessonLexer
