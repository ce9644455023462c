import LessonLexer.Proofs.ItemShape
import LessonLexer.Session

/-!
# The commands of a session that take an item

Six commands read an item and take what they find.  Taking an item moves the cursor behind it, and
records a string literal that is not closed (`Session.takeFrom`); `Session.take_eq` says so in one
equation.

One of the six chooses the reader by the first character, and with one that is chosen in this way
nothing can go wrong (`Session.step_readItem_cons`).  The other five are told which reader to use,
and three of them can fail: there may be no character to begin with, and a point without digits is
no number.
-/

namespace LessonLexer

/-- The report of an item that is an open literal, with the place that it is to name. -/
def Item.reports (item : Item) (start : Location) : List Diagnostic :=
  match item.fault? with
  | some (.unterminatedString quote) => [Fault.diagnostic (.unterminatedString quote) start]
  | _ => []

namespace Session

theorem checkClosed_eq (s : Session) (item : Item) :
    s.checkClosed item = { s with errors := s.errors ++ item.reports s.here } := by
  unfold checkClosed Item.reports
  rcases item.fault? with _ | ⟨_ | _⟩
  · rw [List.append_nil]
  · rw [List.append_nil]
  · rfl

/-- What it comes to when an item is taken and its token is to stand at a given place: the cursor is
moved, and the report is made. -/
def takeFrom (s : Session) (start : Location) (item : Item) : Session × Except Failure Token :=
  ({ s with cursor := s.cursor.after item.raw, errors := s.errors ++ item.reports start },
    .ok (item.token start))

/-- A command that takes an item has its token stand at the cursor. -/
theorem take_eq (s : Session) (item : Item) :
    s.take item = ((s.takeFrom s.here item).1, (s.takeFrom s.here item).2.map .token) := by
  rw [take, checkClosed_eq]
  rfl

theorem head?_remaining (s : Session) : s.remaining.head? = s.source.toList[s.cursor.offset]? :=
  List.head?_drop

/-- The text from the cursor on, after moving over some of it. -/
theorem remaining_skip {s : Session} {front back : List Char} (h : s.remaining = front ++ back) :
    (s.skip front).remaining = back := by
  show s.source.toList.drop (s.cursor.after front).offset = back
  rw [Position.offset_after, ← List.drop_drop]
  show s.remaining.drop front.length = back
  rw [h, List.drop_left]

theorem remaining_skip_cons {s : Session} {c : Char} {text : List Char}
    (h : s.remaining = c :: text) : (s.skip [c]).remaining = text :=
  @remaining_skip s [c] text h

/-- Behind a character less of the text remains. -/
theorem length_remaining_skip_lt {s : Session} {c : Char} {text : List Char}
    (h : s.remaining = c :: text) : (s.skip [c]).remaining.length < (c :: text).length := by
  rw [remaining_skip_cons h]
  exact Nat.lt_succ_self _

theorem skip_skip (s : Session) (front back : List Char) :
    (s.skip front).skip back = s.skip (front ++ back) := by
  unfold skip
  rw [Position.after_append]

theorem length_remaining (s : Session) :
    s.remaining.length = s.source.length - s.cursor.offset := by
  rw [← String.length_toList]
  exact List.length_drop

/-- Reading an item takes the one that the text from the cursor on begins with. -/
theorem step_readItem {s : Session} {item : Item} {rest : List Char}
    (h : Item.next? s.remaining = some (item, rest)) : s.step .readItem = s.take item := by
  rw [step, h]

/-- Before a character, reading an item takes what the reader for that character finds. -/
theorem step_readItem_cons {s : Session} {c : Char} {text : List Char}
    (h : s.remaining = c :: text) :
    s.step .readItem = s.take ((Opening.of c).read c text).1 :=
  step_readItem (by rw [h, Item.next?_cons])

end Session
end LessonLexer
