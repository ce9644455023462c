/-!
# Ascending ranges of code points

A character class is kept as a list of closed ranges of code points in ascending order.
`inRanges` decides membership and stops at the first range that begins beyond the code point,
so the characters of everyday source text are answered by the head of the list.

## Main names

* `LessonLexer.Text.inRanges`: membership of a code point in a list of ranges.
* `LessonLexer.Text.Ascending`: what the tables promise, decidable so that a table can be checked.
* `LessonLexer.Text.inRanges_iff`: on an ascending list the early stop loses nothing.
-/

namespace LessonLexer
namespace Text

/-- Membership of a code point in a list of closed ranges given in ascending order. -/
def inRanges : List (Nat × Nat) → Nat → Bool
  | [], _ => false
  | (first, last) :: rest, n => if n < first then false else n ≤ last || inRanges rest n

theorem inRanges_nil (n : Nat) : inRanges [] n = false := rfl

theorem inRanges_cons (first last : Nat) (rest : List (Nat × Nat)) (n : Nat) :
    inRanges ((first, last) :: rest) n =
      if n < first then false else n ≤ last || inRanges rest n := rfl

/-- Every range begins beyond `bound`, is not empty, and ends before the next one begins. -/
def AscendingFrom : Nat → List (Nat × Nat) → Prop
  | _, [] => True
  | bound, (first, last) :: rest => bound ≤ first ∧ first ≤ last ∧ AscendingFrom (last + 1) rest

/-- The promise of a table: nonempty ranges, in ascending order, none touching an earlier one. -/
def Ascending (ranges : List (Nat × Nat)) : Prop := AscendingFrom 0 ranges

instance decidableAscendingFrom :
    (bound : Nat) → (ranges : List (Nat × Nat)) → Decidable (AscendingFrom bound ranges)
  | _, [] => isTrue trivial
  | bound, (first, last) :: rest =>
    have := decidableAscendingFrom (last + 1) rest
    inferInstanceAs (Decidable (bound ≤ first ∧ first ≤ last ∧ AscendingFrom (last + 1) rest))

instance (ranges : List (Nat × Nat)) : Decidable (Ascending ranges) :=
  decidableAscendingFrom 0 ranges

/-- Nothing below the bound of an ascending list lies in one of its ranges. -/
theorem AscendingFrom.le_of_mem {bound : Nat} {ranges : List (Nat × Nat)}
    (h : AscendingFrom bound ranges) {r : Nat × Nat} (hr : r ∈ ranges) : bound ≤ r.1 := by
  induction ranges generalizing bound with
  | nil => simp at hr
  | cons head rest ih =>
    obtain ⟨first, last⟩ := head
    obtain ⟨hfirst, hlast, hrest⟩ := h
    rcases List.mem_cons.mp hr with rfl | hmem
    · exact hfirst
    · have := ih hrest hmem
      omega

/-- On an ascending list, the look-up answers exactly whether some range holds the code point. -/
theorem AscendingFrom.inRanges_iff {bound : Nat} {ranges : List (Nat × Nat)}
    (h : AscendingFrom bound ranges) (n : Nat) :
    inRanges ranges n = true ↔ ∃ r ∈ ranges, r.1 ≤ n ∧ n ≤ r.2 := by
  induction ranges generalizing bound with
  | nil =>
    rw [inRanges_nil]
    simp
  | cons head rest ih =>
    obtain ⟨first, last⟩ := head
    obtain ⟨hfirst, hlast, hrest⟩ := h
    rw [inRanges_cons]
    split
    · rename_i hlt
      refine ⟨fun hfalse => by simp at hfalse, fun ⟨r, hr, hle, _⟩ => ?_⟩
      rcases List.mem_cons.mp hr with rfl | hmem
      · exact absurd hle (Nat.not_le.mpr hlt)
      · have := hrest.le_of_mem hmem
        omega
    · rename_i hge
      simp only [Bool.or_eq_true, decide_eq_true_eq, ih hrest, List.mem_cons, exists_eq_or_imp]
      constructor
      · rintro (hle | hmem)
        · exact Or.inl ⟨Nat.not_lt.mp hge, hle⟩
        · exact Or.inr hmem
      · rintro (⟨-, hle⟩ | hmem)
        · exact Or.inl hle
        · exact Or.inr hmem

/-- The early stop loses nothing on a table that keeps its promise. -/
theorem inRanges_iff {ranges : List (Nat × Nat)} (h : Ascending ranges) (n : Nat) :
    inRanges ranges n = true ↔ ∃ r ∈ ranges, r.1 ≤ n ∧ n ≤ r.2 :=
  AscendingFrom.inRanges_iff h n

end Text
end LessonLexer
