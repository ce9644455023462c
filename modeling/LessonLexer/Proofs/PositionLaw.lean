import LessonLexer.Proofs.Effects
import LessonLexer.Proofs.Recording
import Mathlib.Data.List.DropRight

/-!
# Positions by counting

A cursor keeps its line and its column by adding up, character by character, and the readers move it
in different ways: over line breaks that are items, over line breaks inside a string literal, over
escaped ones, and never over one in a comment.  All the same its position can be counted out from
the text before it, without going through it from the beginning: the line is the number of line
feeds, and the column is the number of characters behind the last of them, each counted from one.

`Position.start_after` is the closed form.  `Session.Lawful` is the invariant of a session on one
text that follows from it, for the cursor and for everything recorded; every command keeps it that
leaves the text alone (`Session.Effect.lawful`), and so does every list of them
(`Session.run_lawful`).
-/

namespace LessonLexer

/-! ## The closed form -/

/-- The characters behind the last line feed: all of them if there is none. -/
def lastLine (text : List Char) : List Char := text.rtakeWhile (· != '\n')

theorem lastLine_newline (text : List Char) : lastLine (text ++ ['\n']) = [] :=
  List.rtakeWhile_concat_neg _ _ _ (by decide)

theorem lastLine_append {c : Char} (h : c ≠ '\n') (text : List Char) :
    lastLine (text ++ [c]) = lastLine text ++ [c] :=
  List.rtakeWhile_concat_pos _ _ _ (bne_iff_ne.mpr h)

/-- The position at the end of a text, by counting. -/
theorem Position.start_after (text : List Char) :
    Position.start.after text =
      ⟨text.length, 1 + text.count '\n', 1 + (lastLine text).length⟩ := by
  induction text using List.reverseRecOn with
  | nil => rfl
  | append_singleton text c ih =>
    rw [Position.after_append, ih, Position.after_cons, Position.after_nil, List.length_append,
      List.count_append]
    by_cases hc : c = '\n'
    · subst hc
      rw [lastLine_newline]
      rfl
    · have hcount : [c].count '\n' = 0 :=
        List.count_eq_zero_of_not_mem fun hmem => hc (List.mem_singleton.mp hmem).symm
      rw [lastLine_append hc, hcount, Position.next, if_neg hc, List.length_append]
      rfl

/-- A position in a text: its line and its column are those that counting gives. -/
structure Position.LiesIn (p : Position) (text : List Char) : Prop where
  offset_le : p.offset ≤ text.length
  line_eq : p.line = 1 + (text.take p.offset).count '\n'
  column_eq : p.column = 1 + (lastLine (text.take p.offset)).length

/-- The positions in a text are those that a cursor comes to. -/
theorem Position.liesIn_iff {p : Position} {text : List Char} :
    p.LiesIn text ↔ ∃ front back, text = front ++ back ∧ p = Position.start.after front := by
  constructor
  · rintro ⟨hoffset, hline, hcolumn⟩
    refine ⟨text.take p.offset, text.drop p.offset, (List.take_append_drop _ _).symm, ?_⟩
    rw [Position.start_after, ← hline, ← hcolumn, List.length_take_of_le hoffset]
  · rintro ⟨front, back, rfl, rfl⟩
    rw [Position.start_after]
    refine ⟨?_, ?_, ?_⟩
    · rw [List.length_append]
      exact Nat.le_add_right _ _
    · show _ = 1 + ((front ++ back).take front.length).count '\n'
      rw [List.take_left]
    · show _ = 1 + (lastLine ((front ++ back).take front.length)).length
      rw [List.take_left]

/-- A cursor that moves over what is before it stays in the text. -/
theorem Position.LiesIn.after {p : Position} {text front back : List Char} (h : p.LiesIn text)
    (hsplit : text.drop p.offset = front ++ back) : (p.after front).LiesIn text := by
  obtain ⟨passed, rest, rfl, rfl⟩ := Position.liesIn_iff.mp h
  have hoffset : (Position.start.after passed).offset = passed.length := by
    rw [Position.start_after]
  rw [hoffset, List.drop_left] at hsplit
  refine Position.liesIn_iff.mpr ⟨passed ++ front, back, ?_, ?_⟩
  · rw [hsplit, List.append_assoc]
  · rw [Position.after_append]

/-- A location in a file with the text: the file is named, and the numbers are those of a position
in the text. -/
def Location.LiesIn (location : Location) (file : String) (text : List Char) : Prop :=
  ∃ p : Position, p.LiesIn text ∧ location = p.within file

/-! ## Passes -/

theorem Placed.location_of_token? {file : String} {placed : Placed} {token : Token}
    (h : placed.token? file = some token) : token.location = placed.position.within file := by
  obtain ⟨position, item⟩ := placed
  cases item with
  | comment text => cases h
  | _ =>
    rw [← Option.some.inj h]
    rfl

theorem Placed.location_of_diagnostic? {file : String} {placed : Placed} {diagnostic : Diagnostic}
    (h : placed.diagnostic? file = some diagnostic) :
    diagnostic.location = placed.position.within file := by
  obtain ⟨fault, -, rfl⟩ := Option.map_eq_some_iff.mp h
  exact fault.location_diagnostic _

/-- The items of a text stand at positions in it. -/
theorem liesIn_of_mem_scan {text : List Char} {placed : Placed}
    (h : placed ∈ (scan .start text).items) : placed.position.LiesIn text :=
  Position.liesIn_iff.mpr (exists_front_of_mem_scan _ _ _ h)

theorem liesIn_finish (text : List Char) : (Position.start.after text).LiesIn text :=
  Position.liesIn_iff.mpr ⟨text, [], (List.append_nil text).symm, rfl⟩

/-- The tokens of a pass, the last one included, are located by counting. -/
theorem liesIn_of_mem_tokens {source file : String} {token : Token}
    (h : token ∈ (pass source file).tokens) : token.location.LiesIn file source.toList := by
  rw [pass_tokens] at h
  rcases List.mem_append.mp h with hitem | hend
  · obtain ⟨placed, hplaced, htoken⟩ := List.mem_filterMap.mp hitem
    exact ⟨placed.position, liesIn_of_mem_scan hplaced, Placed.location_of_token? htoken⟩
  · rw [List.mem_singleton.mp hend]
    exact ⟨_, liesIn_finish source.toList, rfl⟩

/-- The diagnostics of a pass are located by counting. -/
theorem liesIn_of_mem_errors {source file : String} {diagnostic : Diagnostic}
    (h : diagnostic ∈ (pass source file).errors) :
    diagnostic.location.LiesIn file source.toList := by
  rw [pass_errors] at h
  obtain ⟨placed, hplaced, hdiagnostic⟩ := List.mem_filterMap.mp h
  exact ⟨placed.position, liesIn_of_mem_scan hplaced, Placed.location_of_diagnostic? hdiagnostic⟩

/-! ## Sessions -/

namespace Session

/-- A session on a text of a file in which all is located by counting: the cursor, and whatever has
been recorded. -/
structure Lawful (source file : String) (s : Session) : Prop where
  source_eq : s.source = source
  file_eq : s.file = file
  cursor : s.cursor.LiesIn source.toList
  locations : ∀ l ∈ s.locations, l.LiesIn file source.toList

theorem lawful_ofSource (source file : String) : (ofSource source file).Lawful source file where
  source_eq := rfl
  file_eq := rfl
  cursor := Position.liesIn_iff.mpr ⟨[], source.toList, rfl, rfl⟩
  locations := fun _ hmem => absurd hmem List.not_mem_nil

/-- What holds of all recorded locations. -/
theorem forall_locations {s : Session} {P : Location → Prop} :
    (∀ l ∈ s.locations, P l) ↔ (∀ token ∈ s.tokens, P token.location) ∧
      (∀ diagnostic ∈ s.errors, P diagnostic.location) ∧
      ∀ tokens ∈ s.passes, ∀ token ∈ tokens, P token.location := by
  simp only [Session.locations, List.forall_mem_append, List.forall_mem_map, and_assoc,
    List.forall_mem_flatten]

variable {s : Session} {source file : String}

theorem Lawful.here (h : s.Lawful source file) : s.here.LiesIn file source.toList :=
  ⟨s.cursor, h.cursor, by rw [Session.here, h.file_eq]⟩

/-- Moving the cursor over what is before it keeps the law. -/
theorem Lawful.skip (h : s.Lawful source file) {front back : List Char}
    (hsplit : s.remaining = front ++ back) : (s.skip front).Lawful source file where
  source_eq := h.source_eq
  file_eq := h.file_eq
  cursor := by
    rw [Session.remaining, h.source_eq] at hsplit
    exact h.cursor.after hsplit
  locations := h.locations

/-- Recording errors at the cursor keeps the law. -/
theorem Lawful.record (h : s.Lawful source file) {found : List Diagnostic}
    (hfound : ∀ diagnostic ∈ found, diagnostic.location = s.here) :
    ({ s with errors := s.errors ++ found } : Session).Lawful source file where
  source_eq := h.source_eq
  file_eq := h.file_eq
  cursor := h.cursor
  locations := by
    obtain ⟨htokens, herrors, hpasses⟩ := forall_locations.mp h.locations
    refine forall_locations.mpr ⟨htokens, fun diagnostic hmem => ?_, hpasses⟩
    rcases List.mem_append.mp hmem with hbefore | hnow
    · exact herrors diagnostic hbefore
    · rw [hfound diagnostic hnow]
      exact h.here

/-- A pass begins anew, and all it records is located by counting. -/
theorem Lawful.runPass (h : s.Lawful source file) : s.runPass.1.Lawful source file := by
  obtain ⟨rfl, rfl, -, hlocations⟩ := h
  obtain ⟨-, -, hpasses⟩ := forall_locations.mp hlocations
  refine ⟨rfl, rfl, ?_, forall_locations.mpr ⟨?_, ?_, ?_⟩⟩
  · show (pass s.source s.file).finish.LiesIn s.source.toList
    rw [pass_finish]
    exact liesIn_finish _
  · exact fun token => liesIn_of_mem_tokens
  · exact fun diagnostic => liesIn_of_mem_errors
  · intro tokens htokens
    rcases List.mem_append.mp htokens with hbefore | hnow
    · exact hpasses tokens hbefore
    · rw [List.mem_singleton.mp hnow]
      exact fun token => liesIn_of_mem_tokens

/-- Every effect keeps the law, and what is answered obeys it. -/
theorem Effect.lawful {outcome : Session × Except Failure Answer} (heffect : s.Effect outcome)
    (h : s.Lawful source file) :
    outcome.1.Lawful source file ∧ ∀ l ∈ answered outcome, l.LiesIn file source.toList := by
  cases heffect with
  | look hlook =>
    refine ⟨h, fun l hl => ?_⟩
    rcases hlook l hl with rfl | hmem
    · exact h.here
    · exact h.locations l hmem
  | move hsplit hanswer =>
    refine ⟨h.skip hsplit, fun l hl => ?_⟩
    rw [answered] at hl hanswer
    rw [hanswer] at hl
    cases hl
  | @take item rest hsplit =>
    have hfound : ∀ diagnostic ∈ item.reports s.here, diagnostic.location = s.here := by
      intro diagnostic hmem
      unfold Item.reports at hmem
      split at hmem
      · rw [List.mem_singleton.mp hmem]
        rfl
      · cases hmem
    rw [take_eq]
    refine ⟨(h.record hfound).skip hsplit, fun l hl => ?_⟩
    rw [List.mem_singleton.mp hl]
    exact h.here
  | @report diagnostic hlocation =>
    have hfound : ∀ d ∈ [diagnostic], d.location = s.here := by
      intro d hd
      rw [List.mem_singleton.mp hd, hlocation]
    exact ⟨h.record hfound, fun l hl => absurd hl List.not_mem_nil⟩
  | pass =>
    refine ⟨h.runPass, fun l hl => ?_⟩
    obtain ⟨rfl, rfl, -, -⟩ := h
    obtain ⟨token, htoken, rfl⟩ := List.mem_map.mp hl
    exact liesIn_of_mem_tokens htoken

/-- Every list of commands that leave text and file name alone keeps the law, whether they succeed
or fail. -/
theorem run_lawful (h : s.Lawful source file) {commands : List Command}
    (hcommands : ∀ command ∈ commands, command.keepsText = true) :
    ∀ outcome ∈ s.run commands, outcome.1.Lawful source file ∧
      ∀ l ∈ answered outcome, l.LiesIn file source.toList := by
  induction commands generalizing s with
  | nil =>
    intro outcome hmem
    exact absurd hmem List.not_mem_nil
  | cons command commands ih =>
    obtain ⟨hfirst, hlater⟩ := List.forall_mem_cons.mp hcommands
    have hstep := (step_effect s hfirst).lawful h
    intro outcome hmem
    rcases List.mem_cons.mp hmem with rfl | hrest
    · exact hstep
    · exact ih hstep.1 hlater outcome hrest

/-- **Position law.**  On a text that stays the same, whatever is asked and whether or not it can be
answered, the cursor stands in the text, with line and column as counting gives them, and so does
every location that is recorded or answered.  In particular this holds of the tokens and of the
diagnostics of a pass. -/
theorem run_position_law (source file : String) (commands : List Command)
    (hcommands : ∀ command ∈ commands, command.keepsText = true) :
    (∀ outcome ∈ (ofSource source file).run commands, outcome.1.Lawful source file ∧
      ∀ l ∈ answered outcome, l.LiesIn file source.toList) ∧
    (∀ token ∈ (pass source file).tokens, token.location.LiesIn file source.toList) ∧
    ∀ diagnostic ∈ (pass source file).errors, diagnostic.location.LiesIn file source.toList :=
  ⟨run_lawful (lawful_ofSource source file) hcommands, fun _ => liesIn_of_mem_tokens,
    fun _ => liesIn_of_mem_errors⟩

/-- A literal over three lines, the first of its line breaks escaped; then a point that is no
number, and a request beyond the end of the text. -/
theorem run_position_law_escaped_newline :
    let source := "\"\\\n\n\" .\n"
    let commands := [Command.readItem, .skipBlanks, .readNumber, .advance, .advance]
    (∀ command ∈ commands, command.keepsText = true) ∧
      ((ofSource source "f").run commands).map (fun outcome => outcome.1.cursor) =
        [⟨5, 3, 2⟩, ⟨6, 3, 3⟩, ⟨7, 3, 4⟩, ⟨8, 4, 1⟩, ⟨8, 4, 1⟩] ∧
      ∀ outcome ∈ (ofSource source "f").run commands, outcome.1.Lawful source "f" :=
  ⟨by decide, by decide, fun outcome hmem =>
    ((run_position_law "\"\\\n\n\" .\n" "f"
      [.readItem, .skipBlanks, .readNumber, .advance, .advance] (by decide)).1 outcome hmem).1⟩

end Session
end LessonLexer
