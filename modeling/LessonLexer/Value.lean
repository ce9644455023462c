import LessonLexer.Binary64.Text
import LessonLexer.Text.Quoted

/-!
# Values of tokens

A token may carry a truth value, a text, a whole number of any size or a floating-point number.
Values are compared by what they are worth: a truth value counts as zero or one, and whole and
floating-point numbers are compared exactly, without rounding.  The not-a-number is worth nothing,
so no value is equal to it.  It is values that are compared here, and not the objects that hold
them: an object may count as equal to itself whatever its value.

## Main names

* `LessonLexer.Value`: the values.
* `LessonLexer.Value.written`: the written form of a value.
* `LessonLexer.Value.worth`: what a value is compared by.
* `LessonLexer.Value.same`: equality of values.
-/

namespace LessonLexer

/-- The value of a token. -/
inductive Value where
  | none
  | bool (truth : Bool)
  | text (content : String)
  | int (number : Int)
  | float (number : Binary64)
deriving DecidableEq

/-- What values are compared by.  Numbers are measured in units of `2 ^ (-1074)`, of which every
finite number has a whole count. -/
inductive Worth where
  | nothing
  | text (content : String)
  | amount (units : Int)
  | infinite (negative : Bool)
deriving DecidableEq

namespace Value

/-- The written form of a value. -/
def written : Value → String
  | .none => "None"
  | .bool true => "True"
  | .bool false => "False"
  | .text content => Text.quoted content
  | .int number => number.repr
  | .float number => number.text

/-- What a value is compared by; there is nothing to compare the not-a-number by. -/
def worth : Value → Option Worth
  | .none => some .nothing
  | .bool truth => some (.amount (if truth then Binary64.unitsPerOne else 0))
  | .text content => some (.text content)
  | .int number => some (.amount (number * Binary64.unitsPerOne))
  | .float (.finite negative units) => some (.amount (if negative then -(units : Int) else units))
  | .float (.infinite negative) => some (.infinite negative)
  | .float .nan => Option.none

/-- Equality of values: both are worth something, and worth the same. -/
def same (a b : Value) : Bool :=
  match a.worth, b.worth with
  | some x, some y => x == y
  | _, _ => false

theorem same_iff (a b : Value) : a.same b = true ↔ ∃ x, a.worth = some x ∧ b.worth = some x := by
  unfold same
  split
  · rename_i x y hx hy
    constructor
    · intro h
      exact ⟨x, hx, hy.trans (congrArg some (eq_of_beq h).symm)⟩
    · rintro ⟨z, hz, hz'⟩
      have hxz : x = z := Option.some.inj (hx.symm.trans hz)
      have hyz : y = z := Option.some.inj (hy.symm.trans hz')
      rw [hxz, hyz]
      exact beq_self_eq_true z
  · rename_i hnone
    constructor
    · intro h
      exact absurd h Bool.false_ne_true
    · rintro ⟨z, hz, hz'⟩
      exact absurd hz' (hnone z z hz)

end Value
end LessonLexer
