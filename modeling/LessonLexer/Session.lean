import LessonLexer.Pass

/-!
# Sessions

A session holds a source text with a cursor and what has been recorded about it.  Commands move
the cursor, look around, read an item at the cursor with a reader of choice, or run a whole pass.
The source can be exchanged while the cursor stays, so the cursor may come to stand beyond the end
of the text.

A command answers or fails.  A failed command leaves the session as it was, except that a point
without digits is passed over when it is read as a number.

## Main names

* `LessonLexer.Session`: the state of a session.
* `LessonLexer.Command`, `LessonLexer.Answer`: what can be asked and what is answered.
* `LessonLexer.Session.step`: one command.
-/

namespace LessonLexer

/-- The state of a session. -/
structure Session where
  source : String
  file : String
  cursor : Position
  tokens : List Token
  errors : List Diagnostic
  /-- The tokens of every pass so far. -/
  passes : List (List Token)

/-- What can be asked of a session. -/
inductive Command where
  /-- Run a pass over the source from its beginning. -/
  | runPass
  /-- The tokens of every pass so far. -/
  | history
  /-- Whether the latest pass gave the same tokens as the first. -/
  | sameAsFirst
  | setSource (source : String)
  | setFile (file : String)
  | errors
  | hasErrors
  | diagnostics
  /-- Consume one character. -/
  | advance
  /-- Look at the character so many places past the cursor. -/
  | peek (distance : Int)
  | atEnd
  | location
  | skipBlanks
  /-- Read the item at the cursor. -/
  | readItem
  | readWord
  | readNumber
  | readComment
  | readSign
  /-- Read a string literal that the given quote closes. -/
  | readString (quote : String)
  /-- Report a text as invalid at the cursor. -/
  | reportInvalid (text : String)

/-- What a session answers. -/
inductive Answer where
  | nothing
  | flag (truth : Bool)
  | character (c : Char)
  | location (location : Location)
  | token (token : Token)
  | tokens (tokens : List Token)
  | history (passes : List (List Token))
  | lines (lines : List String)
  | diagnostics (diagnostics : List Diagnostic)

namespace Session

/-- A new session on a source. -/
def ofSource (source file : String) : Session :=
  { source, file, cursor := .start, tokens := [], errors := [], passes := [] }

/-! ## Looking -/

/-- The text from the cursor on. -/
def remaining (s : Session) : List Char := s.source.toList.drop s.cursor.offset

/-- The location of the cursor. -/
def here (s : Session) : Location := s.cursor.within s.file

/-- What stands for a character beyond the end of the text. -/
def endMark : Char := '\x00'

/-- The character at a place of a text.  Places below zero count from the end; beyond the end there
is the end mark, and before the beginning there is nothing. -/
def charAt? (text : List Char) (place : Int) : Option Char :=
  if place < 0 then
    if place + text.length < 0 then none else text[(place + text.length).toNat]?
  else some (text[place.toNat]?.getD endMark)

/-! ## Moving and recording -/

/-- Moves the cursor past some text. -/
def skip (s : Session) (text : List Char) : Session := { s with cursor := s.cursor.after text }

/-- Records an error. -/
def report (s : Session) (diagnostic : Diagnostic) : Session :=
  { s with errors := s.errors ++ [diagnostic] }

/-- Reports a string literal that is not closed.  An invalid character is left to whoever asked
for it. -/
def checkClosed (s : Session) (item : Item) : Session :=
  match item.fault? with
  | some (.unterminatedString quote) =>
    s.report (Fault.diagnostic (.unterminatedString quote) s.here)
  | _ => s

/-- Takes an item that begins at the cursor. -/
def take (s : Session) (item : Item) : Session × Except Failure Answer :=
  ((s.checkClosed item).skip item.raw, .ok (.token (item.token s.here)))

/-- Runs a pass over the source; nothing that was recorded before plays a part. -/
def runPass (s : Session) : Session × Except Failure Answer :=
  let p := pass s.source s.file
  ({ s with
      cursor := p.finish, tokens := p.tokens, errors := p.errors
      passes := s.passes ++ [p.tokens] },
    .ok (.tokens p.tokens))

/-- Whether the latest pass gave the same tokens as the first. -/
def sameAsFirst (s : Session) : Bool :=
  match s.passes.head?, s.passes.getLast? with
  | some first, some latest => Token.sameList latest first
  | _, _ => true

/-- One command: the session after it, and the answer. -/
def step (s : Session) : Command → Session × Except Failure Answer
  | .runPass => s.runPass
  | .history => (s, .ok (.history s.passes))
  | .sameAsFirst => (s, .ok (.flag s.sameAsFirst))
  | .setSource source => ({ s with source }, .ok .nothing)
  | .setFile file => ({ s with file }, .ok .nothing)
  | .errors => (s, .ok (.lines (s.errors.map Diagnostic.line)))
  | .hasErrors => (s, .ok (.flag !s.errors.isEmpty))
  | .diagnostics => (s, .ok (.diagnostics s.errors))
  | .advance =>
    match s.remaining with
    | [] => (s, .error .outsideText)
    | c :: _ => (s.skip [c], .ok (.character c))
  | .peek distance =>
    match charAt? s.source.toList (s.cursor.offset + distance) with
    | none => (s, .error .outsideText)
    | some c => (s, .ok (.character c))
  | .atEnd => (s, .ok (.flag s.remaining.isEmpty))
  | .location => (s, .ok (.location s.here))
  | .skipBlanks => (s.skip (s.remaining.takeWhile Text.isBlank), .ok .nothing)
  | .readItem =>
    match Item.next? s.remaining with
    | none => (s, .error .outsideText)
    | some (item, _) => s.take item
  | .readWord => s.take (Item.readWord s.remaining).1
  | .readNumber =>
    match (Item.readNumber s.remaining).1 with
    | .float [] [] => (s.skip ['.'], .error (.notANumber "."))
    | item => s.take item
  | .readComment => s.take (Item.readComment s.remaining).1
  | .readSign =>
    match s.remaining with
    | [] => (s, .error .outsideText)
    | c :: rest => s.take (Item.readSign c rest).1
  | .readString quote =>
    match s.remaining with
    | [] => (s, .error .outsideText)
    | c :: rest => s.take (Item.readString quote.toList c rest).1
  | .reportInvalid text =>
    match Diagnostic.ofInvalidText text s.here with
    | .error failure => (s, .error failure)
    | .ok diagnostic => (s.report diagnostic, .ok .nothing)

/-- The answers to a list of commands, each with the session after it. -/
def run (s : Session) : List Command → List (Session × Except Failure Answer)
  | [] => []
  | command :: rest =>
    let next := s.step command
    next :: next.1.run rest

end Session
end LessonLexer
