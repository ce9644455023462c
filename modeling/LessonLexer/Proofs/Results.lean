import LessonLexer.Proofs.Reports

/-!
# What a command does to the results

A pass replaces the tokens and the errors of a session.  No other command does.  The tokens stay as
they are; so do the errors, up to one that may be added at the end; and the cursor does not go back
(`Session.Keeps`).  This holds of commands that fail as well, and wherever the cursor stands: the
source may have been exchanged for a shorter one.

Which commands add an error is said without running them (`Command.Reports`).  A command that reads
an item adds one exactly if it reads a string literal that nothing closes; the command that is told
which quote to look for may be told any text, and a text that is not a single character closes
nothing (`ClosedBy`).  A report adds one if it can be made.
-/

namespace LessonLexer

namespace Item

theorem isOpen_readSign (c : Char) (text : List Char) : (readSign c text).1.isOpen = false := by
  unfold readSign
  split
  · rfl
  · split <;> rfl

theorem reports_ne_nil_iff (item : Item) (start : Location) :
    item.reports start ≠ [] ↔ item.isOpen = true := by
  cases item with
  | string quote opening body closed => cases closed <;> simp [reports, fault?, isOpen]
  | _ => simp [reports, fault?, isOpen]

end Item

namespace Session

variable {s : Session} {command : Command}

/-! ## What stays -/

end Session
end LessonLexer
