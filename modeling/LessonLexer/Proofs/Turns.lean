import LessonLexer.Proofs.Scanners

/-!
# A pass as an act that may fail

`pass` is a total function: there is no place in it where it could fail.  That a pass never fails is
therefore said about an act, `Act.recordPass`, which does the work of a pass bit by bit.  One turn
of its loop (`Act.passItem`) consumes the blanks and, unless the end is reached, scans the item
behind them character by character, reports the token that comes of it if it is an error, and keeps
it unless it is a comment.  Consuming a character fails at the end of the text, a scanner may find
no character or a point without digits, and the report may be asked for a text that has no single
code point; each of these would end the pass with its failure, and with what it has done so far.

None of them happens.  `Act.passItem_blank` and `Act.passItem_lead` give the outcome of every turn,
`Act.items_run` the outcome of the loop, and `Act.recordPass_eq` says that it is what the pass
records.
-/

namespace LessonLexer

namespace Session

/-! ## Stages of a pass -/

/-- Goes back to the beginning of the text, with nothing recorded. -/
def restart (s : Session) : Session := { s with cursor := .start, tokens := [], errors := [] }

/-- Keeps a token. -/
def keep (s : Session) (token : Token) : Session := { s with tokens := s.tokens ++ [token] }

/-- Keeps the token for the end of the text. -/
def keepEnd (s : Session) : Session := s.keep (endToken s.here)

/-- Hands out the tokens. -/
def handOut (s : Session) : Session := { s with passes := s.passes ++ [s.tokens] }

/-- The session with the cursor behind the blanks. -/
def skipped (s : Session) : Session := (s.step .skipBlanks).1

/-- The session after an item has been taken and its token accepted. -/
def record (s : Session) (item : Item) : Session :=
  { s with
    cursor := s.cursor.after item.raw
    tokens := s.tokens ++ (Placed.token? s.file ⟨s.cursor, item⟩).toList
    errors := s.errors ++ (Placed.diagnostic? s.file ⟨s.cursor, item⟩).toList }

/-- The session at the end of a pass, before the tokens are handed out. -/
def passed (s : Session) : Session :=
  { s with
    cursor := (pass s.source s.file).finish
    tokens := (pass s.source s.file).tokens
    errors := (pass s.source s.file).errors }

theorem skipped_eq {s : Session} {blanks text : List Char} (h : s.remaining = blanks ++ text)
    (hblanks : IsBlankText blanks) (hstop : Stops Text.isBlank text) :
    s.skipped = s.skip blanks := by
  show s.skip (s.remaining.takeWhile Text.isBlank) = _
  rw [h, takeWhile_append_eq hblanks hstop]

/-- Behind the blanks of a blank text there is nothing. -/
theorem remaining_skipped_blank {s : Session} (h : IsBlankText s.remaining) :
    s.skipped = s.skip s.remaining ∧ s.skipped.remaining = [] := by
  have hall : s.remaining = s.remaining ++ [] := (List.append_nil _).symm
  have hskipped := skipped_eq hall h (stops_nil _)
  exact ⟨hskipped, by rw [hskipped, remaining_skip hall]⟩

theorem remaining_record {s : Session} {item : Item} {rest : List Char}
    (h : s.remaining = item.raw ++ rest) : (s.record item).remaining = rest :=
  remaining_skip h

end Session

/-- A single character can always be reported. -/
theorem Diagnostic.ofInvalidText_singleton (c : Char) (location : Location) :
    ofInvalidText (String.ofList [c]) location =
      .ok (Fault.diagnostic (.invalidCharacter c) location) := by
  simp [ofInvalidText]

namespace Act

variable {s : Session} {blanks rest : List Char} {item : Item}

/-! ## The acts -/

/-- Reports a text as invalid at a place. -/
def reportInvalid (text : String) (start : Location) : Act Session Unit := do
  let diagnostic ← give (Diagnostic.ofInvalidText text start)
  change (·.report diagnostic)

/-- Reports a token that is an error, and keeps any token but a comment. -/
def accept (token : Token) : Act Session Unit :=
  match token.kind with
  | .error => do
    reportInvalid token.lexeme token.location
    change (·.keep token)
  | .comment => return ()
  | _ => change (·.keep token)

/-- One turn of a pass: the blanks, and the item behind them unless the text ends there. -/
def passItem : Act Session (Round Unit) := do
  (passing Text.isBlank).run ()
  ifEnd (return .last ()) do
    accept (← scanItem)
    return .again ()

/-! ## The outcome of a turn -/

/-- Consuming the blanks does what the command does. -/
theorem passing_blanks (s : Session) : (passing Text.isBlank).run () s = (s.skipped, .ok ()) :=
  passing_run Text.isBlank s

/-- A turn over a blank text is the last. -/
theorem passItem_blank (h : IsBlankText s.remaining) :
    passItem s = (s.skipped, .ok (.last ())) := by
  rw [passItem, bind_of_ok (passing_blanks s), ifEnd_nil (Session.remaining_skipped_blank h).2]
  rfl

theorem accept_of_ne {token : Token} (herror : token.kind ≠ .error)
    (hcomment : token.kind ≠ .comment) : accept token = change (·.keep token) := by
  unfold accept
  split
  · contradiction
  · contradiction
  · rfl

/-- The token of an item that has been taken is accepted, and with it the item is recorded. -/
theorem accept_taken (s : Session) (item : Item) :
    accept (item.token s.here) (s.takeFrom s.here item).1 = (s.record item, .ok ()) := by
  cases item with
  | comment text =>
    show ((s.takeFrom s.here (.comment text)).1, Except.ok ()) = _
    simp [Session.takeFrom, Session.record, Placed.token?_comment, Item.reports,
      Placed.diagnostic?, Item.fault?]
  | word text =>
    rw [accept_of_ne (Kind.ofWord_ne rfl _) (Kind.ofWord_ne rfl _)]
    rfl
  | invalid c =>
    show (reportInvalid (String.ofList [c]) s.here >>= _) _ = _
    have hreport : reportInvalid (String.ofList [c]) s.here (s.takeFrom s.here (.invalid c)).1 =
        ((s.takeFrom s.here (.invalid c)).1.report
          (Fault.diagnostic (.invalidCharacter c) s.here), .ok ()) := by
      rw [reportInvalid, Diagnostic.ofInvalidText_singleton]
      rfl
    rw [bind_of_ok hreport]
    simp only [Session.takeFrom, Item.reports, Item.fault?, List.append_nil]
    rfl
  | string quote opening body closed =>
    cases closed <;> rfl
  | _ => rfl

/-- A turn over a text with a leading item records the item. -/
theorem passItem_lead (h : s.remaining = blanks ++ (item.raw ++ rest))
    (hblanks : IsBlankText blanks) (hlead : item.Leads rest) :
    passItem s = ((s.skip blanks).record item, .ok (.again ())) := by
  have hremaining := Session.remaining_skip h
  cases htext : item.raw ++ rest with
  | nil => exact absurd (List.append_eq_nil_iff.mp htext).1 hlead.raw_ne_nil
  | cons c text =>
    rw [htext] at hremaining
    have hnext := hlead.next
    rw [htext, Item.next?_cons, Option.some.injEq] at hnext
    have hscan : scanItem (s.skip blanks) =
        (((s.skip blanks).takeFrom (s.skip blanks).here item).1,
          .ok (item.token (s.skip blanks).here)) := by
      rw [scanItem_cons hremaining, hnext]
      rfl
    rw [passItem, bind_of_ok (passing_blanks s), Session.skipped_eq h hblanks hlead.solid,
      ifEnd_cons hremaining, bind_of_ok hscan]
    exact bind_of_ok (accept_taken _ item) _

/-- A turn that is not the last leaves less of the text. -/
theorem length_remaining_of_passItem {next : Session} (h : passItem s = (next, .ok (.again ()))) :
    next.remaining.length < s.remaining.length := by
  rcases isBlankText_or_lead s.remaining with hblank | ⟨blanks, item, rest, hblanks, hlead, htext⟩
  · cases (passItem_blank hblank).symm.trans h
  · cases (passItem_lead htext hblanks hlead).symm.trans h
    have hpos := List.length_pos_iff.mpr hlead.raw_ne_nil
    rw [Session.remaining_record (Session.remaining_skip htext), htext, List.length_append,
      List.length_append]
    omega

/-- A turn touches no result of an earlier pass. -/
theorem passes_of_passItem {next : Session} (h : passItem s = (next, .ok (.again ()))) :
    next.passes = s.passes := by
  rcases isBlankText_or_lead s.remaining with hblank | ⟨blanks, item, rest, hblanks, hlead, htext⟩
  · cases (passItem_blank hblank).symm.trans h
  · cases (passItem_lead htext hblanks hlead).symm.trans h
    rfl

/-- A turn is the last at the end of the text, or it reads on, and never beyond the end. -/
theorem passItem_progress (s : Session) :
    (passItem s = (s.skipped, .ok (.last ())) ∧ s.skipped.remaining = []) ∨
      ∃ next, passItem s = (next, .ok (.again ())) ∧
        s.skipped.cursor.offset < next.cursor.offset ∧
          next.cursor.offset ≤ s.source.length := by
  rcases isBlankText_or_lead s.remaining with hblank | ⟨blanks, item, rest, hblanks, hlead, htext⟩
  · exact Or.inl ⟨passItem_blank hblank, (Session.remaining_skipped_blank hblank).2⟩
  · refine Or.inr ⟨_, passItem_lead htext hblanks hlead, ?_⟩
    rw [Session.skipped_eq htext hblanks hlead.solid]
    have hpos := List.length_pos_iff.mpr hlead.raw_ne_nil
    have hlength := s.length_remaining
    rw [htext, List.length_append, List.length_append] at hlength
    have hskip : (s.skip blanks).cursor.offset = s.cursor.offset + blanks.length :=
      Position.offset_after _ _
    have hrecord : ((s.skip blanks).record item).cursor.offset =
        (s.skip blanks).cursor.offset + item.raw.length := Position.offset_after _ _
    omega

/-! ## The outcome of the loop -/

/-- The items of a text, one by one. -/
def items : Repetition Session Unit where
  turn _ := passItem
  size s := s.remaining.length
  shrinks h := length_remaining_of_passItem h

/-- The loop does not fail, goes to the end of the text and records all items. -/
theorem items_run (position : Position) (text : List Char) :
    ∀ s : Session, s.cursor = position → s.remaining = text →
      items.run () s = ({ s with
        cursor := position.after text
        tokens := s.tokens ++ (scan position text).items.filterMap (Placed.token? s.file)
        errors :=
          s.errors ++ (scan position text).items.filterMap (Placed.diagnostic? s.file) },
        .ok ()) := by
  induction position, text using scanInduction with
  | blank position text hblank =>
    rintro s rfl rfl
    have hturn : items.turn () s = (s.skipped, .ok (.last ())) := passItem_blank hblank
    rw [Repetition.run_of_last hturn, (Session.remaining_skipped_blank hblank).1,
      scan_blank _ hblank, List.filterMap_nil, List.filterMap_nil, List.append_nil,
      List.append_nil]
    rfl
  | lead position blanks item rest hblanks hlead ih =>
    rintro s rfl htext
    have hturn : items.turn () s = ((s.skip blanks).record item, .ok (.again ())) :=
      passItem_lead htext hblanks hlead
    have hrest : ((s.skip blanks).record item).remaining = rest :=
      Session.remaining_record (Session.remaining_skip htext)
    rw [Repetition.run_of_again hturn, ih _ rfl hrest, scan_lead _ hblanks hlead,
      filterMap_prepend, filterMap_prepend, Position.after_blanks_raw, ← List.append_assoc,
      ← List.append_assoc]
    rfl

/-! ## A pass -/

/-- A pass: from the beginning of the text, item by item, to the token for the end. -/
def recordPass : Act Session (List Token) := do
  change Session.restart
  items.run ()
  change Session.keepEnd
  change Session.handOut
  return (← state).tokens

/-- From the beginning of the text the loop comes to all that a pass records but the token for the
end. -/
theorem items_run_restart (s : Session) :
    ∃ done, items.run () s.restart = (done, .ok ()) ∧ done.keepEnd = s.passed := by
  refine ⟨_, items_run .start s.source.toList s.restart rfl rfl, ?_⟩
  rw [Session.passed, pass_tokens, pass_errors, pass_finish]
  rfl

/-- A pass is not interrupted, and records what `pass` says. -/
theorem recordPass_eq (s : Session) :
    recordPass s = (s.passed.handOut, .ok (pass s.source s.file).tokens) := by
  obtain ⟨done, hitems, hdone⟩ := items_run_restart s
  rw [recordPass, change_bind, bind_of_ok hitems, change_bind, hdone]
  rfl

/-- **Total recovery.**  No turn of a pass fails, whatever the text: it is the last at the end of
the text, and before the end it reads at least one character.  So a pass ends without a failure and
records what `pass` says: the cursor is at the end of the text, one token stands for the end and it
is the last, none stands for a comment, and there are at most one token more and no more diagnostics
than characters. -/
theorem recordPass_recovers (s : Session) :
    (∀ t : Session, (passItem t = (t.skipped, .ok (.last ())) ∧ t.skipped.remaining = []) ∨
      ∃ next, passItem t = (next, .ok (.again ())) ∧
        t.skipped.cursor.offset < next.cursor.offset ∧ next.cursor.offset ≤ t.source.length) ∧
    recordPass s =
      ({ s with
          cursor := (pass s.source s.file).finish
          tokens := (pass s.source s.file).tokens
          errors := (pass s.source s.file).errors
          passes := s.passes ++ [(pass s.source s.file).tokens] },
        .ok (pass s.source s.file).tokens) ∧
    (pass s.source s.file).finish.offset = s.source.length ∧
    (∃ (words : List Token) (last : Token), (pass s.source s.file).tokens = words ++ [last] ∧
      (last.kind = .eof ∧ last.lexeme = "" ∧ last.value = .none ∧
        last.location.offset = s.source.length) ∧
      ∀ token ∈ words, token.kind ≠ .eof ∧ token.kind ≠ .comment) ∧
    (pass s.source s.file).tokens.length ≤ s.source.length + 1 ∧
    (pass s.source s.file).errors.length ≤ s.source.length := by
  have hend : (Position.start.after s.source.toList).offset = s.source.length := by
    rw [Position.offset_after, String.length_toList]
    exact Nat.zero_add _
  refine ⟨passItem_progress, recordPass_eq s, ?_, ?_, ?_, ?_⟩
  · rw [pass_finish, hend]
  · refine ⟨_, _, pass_tokens s.source s.file, ⟨rfl, rfl, rfl, ?_⟩, fun token htoken => ?_⟩
    · show ((Position.start.after s.source.toList).offset : Int) = _
      rw [hend]
    · obtain ⟨placed, -, hgiven⟩ := List.mem_filterMap.mp htoken
      exact Placed.kind_ne_of_token? hgiven
  · rw [pass_tokens, ← String.length_toList]
    exact length_tokensFrom_le _ _ _
  · rw [pass_errors, ← String.length_toList]
    exact length_errorsFrom_le _ _ _

end Act
end LessonLexer
