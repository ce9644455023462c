import LessonLexer.Proofs.Commands
import LessonLexer.Proofs.Tiling

/-!
# Acts that a failure interrupts

The readers see the whole text before them and cannot go astray in it, and `Session.step` tells in
one go what becomes of a session.  A command that has to find its way works bit by bit: it looks at
a character, moves on, looks at the next one.  Any of this may fail, and what was done before the
failure is not undone.  Whether a command can fail, and whether it then leaves something behind, are
therefore questions about programs that keep their state when they fail.

An `Act` is such a program.  Acts are put together by `do`; the equations for that are
`Act.bind_of_ok` and `Act.bind_of_error`.  A `Repetition` is an act that is done again and again,
and carries with it the reason why it comes to an end.

## Main names

* `Act`: the acts, and `Act.andThen`: one after another.
* `Act.current`, `Act.advance`, `Act.peek`: the acts on a session that can fail on their own.
* `Repetition`: what is repeated, and `Repetition.run`: the repetition as one act.
-/

namespace LessonLexer

/-- Work on a state that a failure may interrupt.  The state is then left as it is at that
moment. -/
def Act (σ α : Type) := σ → σ × Except Failure α

namespace Act

section

variable {σ α β : Type}

/-- One act after another; a failure of the first is the end of both. -/
def andThen (act : Act σ α) (next : α → Act σ β) : Act σ β := fun s =>
  match act s with
  | (behind, .error failure) => (behind, .error failure)
  | (behind, .ok a) => next a behind

instance : Monad (Act σ) where
  pure a := fun s => (s, .ok a)
  bind := andThen

variable {act : Act σ α} {s behind : σ}

theorem bind_of_ok {a : α} (h : act s = (behind, .ok a)) (next : α → Act σ β) :
    (act >>= next) s = next a behind := by
  show andThen act next s = _
  rw [andThen, h]

theorem bind_of_error {failure : Failure} (h : act s = (behind, .error failure))
    (next : α → Act σ β) : (act >>= next) s = (behind, .error failure) := by
  show andThen act next s = _
  rw [andThen, h]

/-- What is made of the answer changes nothing else. -/
theorem map_apply (f : α → β) (act : Act σ α) (s : σ) :
    (f <$> act) s = ((act s).1, (act s).2.map f) := by
  show andThen act _ s = _
  rw [andThen]
  split
  · rename_i h
    rw [h]
    rfl
  · rename_i h
    rw [h]
    rfl

/-- The state as it is. -/
def state : Act σ σ := fun s => (s, .ok s)

theorem state_bind (next : σ → Act σ β) (s : σ) : (state >>= next) s = next s s := rfl

/-- Changes the state. -/
def change (f : σ → σ) : Act σ Unit := fun s => (f s, .ok ())

theorem change_bind (f : σ → σ) (next : Unit → Act σ β) (s : σ) :
    (change f >>= next) s = next () (f s) := rfl

/-- Answers or fails, and changes nothing. -/
def give (answer : Except Failure α) : Act σ α := fun s => (s, answer)

end

/-! ## Single acts -/

/-- The character at the cursor. -/
def current : Act Session Char := fun s =>
  match s.source.toList[s.cursor.offset]? with
  | none => (s, .error .outsideText)
  | some c => (s, .ok c)

/-- Consumes the character at the cursor. -/
def advance : Act Session Char := do
  let c ← current
  change (·.skip [c])
  return c

/-- Looks at the character so many places past the cursor. -/
def peek (distance : Int) : Act Session Char := fun s =>
  match Session.charAt? s.source.toList (s.cursor.offset + distance) with
  | none => (s, .error .outsideText)
  | some c => (s, .ok c)

/-- Whether the cursor is at the end of the text or beyond it. -/
def atEnd : Act Session Bool := fun s => (s, .ok (decide (s.source.length ≤ s.cursor.offset)))

/-- One act at the end of the text, another where there is text left. -/
def ifEnd {α : Type} (last more : Act Session α) : Act Session α := do
  if ← atEnd then last else more

/-- The text from a place up to the cursor. -/
def textSince (place : Nat) : Act Session (List Char) := fun s =>
  (s, .ok (slice s.source.toList place s.cursor.offset))

variable {s : Session} {c : Char} {text : List Char}

theorem current_nil (h : s.remaining = []) : current s = (s, .error .outsideText) := by
  rw [current, ← Session.head?_remaining, h]
  rfl

theorem current_cons (h : s.remaining = c :: text) : current s = (s, .ok c) := by
  rw [current, ← Session.head?_remaining, h]
  rfl

theorem advance_nil (h : s.remaining = []) : advance s = (s, .error .outsideText) :=
  bind_of_error (current_nil h) _

theorem advance_cons (h : s.remaining = c :: text) : advance s = (s.skip [c], .ok c) :=
  bind_of_ok (current_cons h) _

/-- Looking at the cursor does not fail, not even at the end of the text. -/
theorem peek_zero (s : Session) :
    peek 0 s = (s, .ok (s.remaining.head?.getD Session.endMark)) := by
  have hplace : ¬ ((s.cursor.offset : Int) + 0 < 0) := by omega
  have hnat : ((s.cursor.offset : Int) + 0).toNat = s.cursor.offset := by omega
  rw [peek, Session.charAt?, if_neg hplace, hnat, Session.head?_remaining]

theorem remaining_eq_nil_iff : s.remaining = [] ↔ s.source.length ≤ s.cursor.offset := by
  rw [← List.length_eq_zero_iff, Session.length_remaining]
  omega

theorem atEnd_nil (h : s.remaining = []) : atEnd s = (s, .ok true) := by
  rw [atEnd, decide_eq_true (remaining_eq_nil_iff.mp h)]

theorem atEnd_cons (h : s.remaining = c :: text) : atEnd s = (s, .ok false) := by
  have hne : s.remaining ≠ [] := by
    rw [h]
    exact List.cons_ne_nil c text
  rw [atEnd, decide_eq_false (mt remaining_eq_nil_iff.mpr hne)]

theorem ifEnd_nil {α : Type} (h : s.remaining = []) (last more : Act Session α) :
    ifEnd last more s = last s := by
  rw [ifEnd, bind_of_ok (atEnd_nil h), if_pos rfl]

theorem ifEnd_cons {α : Type} (h : s.remaining = c :: text) (last more : Act Session α) :
    ifEnd last more s = more s := by
  rw [ifEnd, bind_of_ok (atEnd_cons h), if_neg Bool.false_ne_true]

/-- What has been passed over is the text between the two places of the cursor. -/
theorem textSince_skip {front back : List Char} (h : s.remaining = front ++ back) :
    textSince s.cursor.offset (s.skip front) = (s.skip front, .ok front) := by
  have hplace : (s.skip front).cursor.offset = s.cursor.offset + front.length :=
    Position.offset_after _ _
  have hslice : slice s.source.toList s.cursor.offset (s.cursor.offset + front.length) = front := by
    rw [slice, List.drop_take, Nat.add_sub_cancel_left]
    show s.remaining.take front.length = front
    rw [h, List.take_left]
  rw [textSince, hplace]
  exact Prod.ext rfl (congrArg Except.ok hslice)

end Act

/-! ## Repeated acts -/

/-- How one turn of a repetition ends: it was the last, or there is another. -/
inductive Round (β : Type) where
  | last (b : β)
  | again (b : β)

/-- An act to be repeated, which carries a value along.  If it asks for another turn, there is less
to do. -/
structure Repetition (σ β : Type) where
  turn : β → Act σ (Round β)
  size : σ → Nat
  shrinks : ∀ {b b' : β} {s s' : σ}, turn b s = (s', .ok (.again b')) → size s' < size s

namespace Repetition

variable {σ β : Type}

/-- Turn after turn, until it was the last or there is a failure. -/
def outcome (repetition : Repetition σ β) (b : β) (s : σ) : σ × Except Failure β :=
  match _h : repetition.turn b s with
  | (behind, .error failure) => (behind, .error failure)
  | (behind, .ok (.last done)) => (behind, .ok done)
  | (behind, .ok (.again next)) => repetition.outcome next behind
termination_by repetition.size s
decreasing_by exact repetition.shrinks _h

/-- The turns as one act. -/
def run (repetition : Repetition σ β) (b : β) : Act σ β := repetition.outcome b

variable {repetition : Repetition σ β} {b b' : β} {s behind : σ}

theorem run_of_last (h : repetition.turn b s = (behind, .ok (.last b'))) :
    repetition.run b s = (behind, .ok b') := by
  rw [run, outcome]
  split
  · rename_i hturn
    cases h.symm.trans hturn
  · rename_i hturn
    cases h.symm.trans hturn
    rfl
  · rename_i hturn
    cases h.symm.trans hturn

theorem run_of_again (h : repetition.turn b s = (behind, .ok (.again b'))) :
    repetition.run b s = repetition.run b' behind := by
  rw [run, outcome]
  split
  · rename_i hturn
    cases h.symm.trans hturn
  · rename_i hturn
    cases h.symm.trans hturn
  · rename_i hturn
    cases h.symm.trans hturn
    rfl

end Repetition

end LessonLexer
