import LessonLexer.Proofs.Commands

/-!
# What a command can do

Most of the commands of a session are alike in what they can do to it.  A command that leaves the
text and the name of the file alone looks at the session, moves the cursor over some text, takes an
item, records an error at the cursor, or runs a pass.  `Session.step_effect` says so, failures
included; a law about all sessions on one text has five cases and not twenty.

The locations that a session has recorded are kept in view: a look answers with none but these.
-/

namespace LessonLexer

/-- Whether a command leaves the text and the name of the file alone. -/
def Command.keepsText : Command → Bool
  | .setSource _ | .setFile _ => false
  | _ => true

/-- The locations in an answer. -/
def Answer.locations : Answer → List Location
  | .location place => [place]
  | .token found => [found.location]
  | .tokens list => list.map Token.location
  | .history passes => passes.flatten.map Token.location
  | .diagnostics list => list.map Diagnostic.location
  | _ => []

namespace Session

/-- The locations that a session has recorded. -/
def locations (s : Session) : List Location :=
  s.tokens.map Token.location ++ s.errors.map Diagnostic.location ++
    s.passes.flatten.map Token.location

/-- The locations that an outcome gives away: none if it is a failure. -/
def answered (outcome : Session × Except Failure Answer) : List Location :=
  match outcome.2 with
  | .ok answer => answer.locations
  | .error _ => []

/-- What a command can do that leaves the text and the name of the file alone. -/
inductive Effect (s : Session) : Session × Except Failure Answer → Prop where
  /-- It looks at the cursor or at what was recorded. -/
  | look {answer : Except Failure Answer}
      (h : ∀ l ∈ answered (s, answer), l = s.here ∨ l ∈ s.locations) : Effect s (s, answer)
  /-- It moves the cursor over some text. -/
  | move {front back : List Char} {answer : Except Failure Answer}
      (h : s.remaining = front ++ back) (hanswer : answered (s, answer) = []) :
      Effect s (s.skip front, answer)
  /-- It takes an item. -/
  | take {item : Item} {rest : List Char} (h : s.remaining = item.raw ++ rest) :
      Effect s (s.take item)
  /-- It records an error at the cursor. -/
  | report {diagnostic : Diagnostic} (h : diagnostic.location = s.here) :
      Effect s (s.report diagnostic, .ok .nothing)
  /-- It runs a pass. -/
  | pass : Effect s s.runPass

/-- A look that answers with no location. -/
theorem Effect.glance (s : Session) {answer : Except Failure Answer}
    (h : answered (s, answer) = []) : s.Effect (s, answer) := by
  refine Effect.look fun l hl => ?_
  rw [h] at hl
  cases hl

/-- The report of an invalid text is about the location it was asked for. -/
theorem location_of_ofInvalidText {text : String} {location : Location} {diagnostic : Diagnostic}
    (h : Diagnostic.ofInvalidText text location = .ok diagnostic) :
    diagnostic.location = location := by
  unfold Diagnostic.ofInvalidText at h
  split at h
  · rw [← Except.ok.inj h]
    rfl
  · split at h
    · rw [← Except.ok.inj h]
      rfl
    · cases h

theorem effect_readNumber (s : Session) : s.Effect (s.step .readNumber) := by
  have hraw := (Item.raw_append_readNumber s.remaining).symm
  rw [step]
  split
  · rename_i hpoint
    rw [hpoint] at hraw
    exact Effect.move hraw rfl
  · exact Effect.take hraw

/-- A command that leaves the text and the name of the file alone does one of the five things. -/
theorem step_effect (s : Session) {command : Command} (h : command.keepsText = true) :
    s.Effect (s.step command) := by
  cases command with
  | setSource source => cases h
  | setFile file => cases h
  | runPass => exact Effect.pass
  | history =>
    refine Effect.look fun l hl => Or.inr ?_
    exact List.mem_append_right _ hl
  | diagnostics =>
    refine Effect.look fun l hl => Or.inr ?_
    exact List.mem_append_left _ (List.mem_append_right _ hl)
  | location =>
    refine Effect.look fun l hl => Or.inl ?_
    exact List.mem_singleton.mp hl
  | sameAsFirst => exact Effect.glance s rfl
  | errors => exact Effect.glance s rfl
  | hasErrors => exact Effect.glance s rfl
  | atEnd => exact Effect.glance s rfl
  | advance =>
    rw [step]
    split
    · exact Effect.glance s rfl
    · rename_i c rest hrest
      exact @Effect.move s [c] rest _ hrest rfl
  | peek distance =>
    rw [step]
    split
    · exact Effect.glance s rfl
    · exact Effect.glance s rfl
  | skipBlanks =>
    have hsplit : s.remaining = s.remaining.takeWhile Text.isBlank ++
        s.remaining.dropWhile Text.isBlank := List.takeWhile_append_dropWhile.symm
    exact Effect.move hsplit rfl
  | readItem =>
    rw [step]
    split
    · exact Effect.glance s rfl
    · rename_i item rest hnext
      exact Effect.take (Item.raw_append_of_next? hnext).symm
  | readWord => exact Effect.take (Item.raw_append_readWord s.remaining).symm
  | readNumber => exact effect_readNumber s
  | readComment => exact Effect.take (Item.raw_append_readComment s.remaining).symm
  | readSign =>
    rw [step]
    split
    · exact Effect.glance s rfl
    · rename_i c rest hrest
      exact Effect.take (hrest.trans (Item.raw_append_readSign c rest).symm)
  | readString quote =>
    rw [step]
    split
    · exact Effect.glance s rfl
    · rename_i c rest hrest
      exact Effect.take (hrest.trans (Item.raw_append_readString quote.toList c rest).symm)
  | reportInvalid text =>
    rw [step]
    split
    · exact Effect.glance s rfl
    · rename_i diagnostic hdiagnostic
      exact Effect.report (location_of_ofInvalidText hdiagnostic)

end Session
end LessonLexer
