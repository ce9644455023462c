import LessonLexer.Text.Quoted

/-!
# Locations and positions

A location names a place in a file by line, column and offset.  As data its numbers may be any
integers.  A position is where a cursor stands in a text: how many characters lie before it, the
line counted from one, and the column counted from one within the line.

## Main names

* `LessonLexer.Location`: a place in a file, with a short and a detailed written form.
* `LessonLexer.Position`: where a cursor stands, and `LessonLexer.Position.after`: where it stands
  after reading some text.
-/

namespace LessonLexer

/-- A place in a file. -/
structure Location where
  file : String
  line : Int
  column : Int
  offset : Int
deriving DecidableEq

namespace Location

/-- The short form: file, line and column. -/
def summary (l : Location) : String :=
  l.file ++ ":" ++ l.line.repr ++ ":" ++ l.column.repr

/-- The detailed form, with the file name quoted. -/
def detail (l : Location) : String :=
  "SourceLocation(" ++ Text.quoted l.file ++ ", " ++ l.line.repr ++ ", " ++ l.column.repr ++ ", "
    ++ l.offset.repr ++ ")"

end Location

/-- Where a cursor stands in a text. -/
structure Position where
  offset : Nat
  line : Nat
  column : Nat
deriving DecidableEq

namespace Position

/-- The beginning of a text. -/
def start : Position := ⟨0, 1, 1⟩

/-- The position after one more character: a line feed begins a new line. -/
def next (p : Position) (c : Char) : Position :=
  if c = '\n' then ⟨p.offset + 1, p.line + 1, 1⟩ else ⟨p.offset + 1, p.line, p.column + 1⟩

/-- The position after some more text. -/
def after (p : Position) (text : List Char) : Position := text.foldl next p

@[simp] theorem after_nil (p : Position) : p.after [] = p := rfl

@[simp] theorem after_cons (p : Position) (c : Char) (text : List Char) :
    p.after (c :: text) = (p.next c).after text := rfl

theorem after_append (p : Position) (front back : List Char) :
    p.after (front ++ back) = (p.after front).after back := by
  simp [after]

@[simp] theorem offset_next (p : Position) (c : Char) : (p.next c).offset = p.offset + 1 := by
  unfold next; split <;> rfl

@[simp] theorem offset_after (p : Position) (text : List Char) :
    (p.after text).offset = p.offset + text.length := by
  induction text generalizing p with
  | nil => rfl
  | cons c text ih => simp [ih]; omega

/-- The location of a position in a named file. -/
def within (p : Position) (file : String) : Location := ⟨file, p.line, p.column, p.offset⟩

end Position
end LessonLexer
