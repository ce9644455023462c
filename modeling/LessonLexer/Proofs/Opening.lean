import LessonLexer.Item

/-!
# What the first character decides

The first character of an item says which reader takes it.  The readers are asked in a fixed order,
but the order plays no part: no character belongs to two of the classes that are asked about.  For
letters and decimal digits this is a fact about two tables of Unicode, and all else is a matter of
a few characters.

## Main names

* `Text.isDigit_eq_false_of_isLetter`: no letter is a decimal digit.
* `Opening`: the five kinds of first characters, and `Opening.of`: the kind of a character.
* `Opening.read`: the reader for each kind, and `Item.next?_cons`: the next item is what the reader
  of its first character takes.
-/

namespace LessonLexer
namespace Text

/-! ## Letters and digits -/

/-- Whether the block of ten code points from `start` on lies between the ranges of a table. -/
def betweenRanges (start : Nat) : List (Nat × Nat) → Bool
  | [] => true
  | (first, last) :: rest =>
    if last < start then betweenRanges start rest else start + 10 ≤ first

theorem apart_of_betweenRanges {start bound : Nat} {ranges : List (Nat × Nat)}
    (hascending : AscendingFrom bound ranges) (h : betweenRanges start ranges = true) :
    ∀ r ∈ ranges, r.2 < start ∨ start + 10 ≤ r.1 := by
  induction ranges generalizing bound with
  | nil => simp
  | cons range rest ih =>
    obtain ⟨first, last⟩ := range
    obtain ⟨-, hrange, hrest⟩ := hascending
    intro r hr
    rw [betweenRanges] at h
    split at h
    · rename_i hlast
      rcases List.mem_cons.mp hr with rfl | hmem
      · exact Or.inl hlast
      · exact ih hrest h r hmem
    · have hfirst : start + 10 ≤ first := of_decide_eq_true h
      rcases List.mem_cons.mp hr with rfl | hmem
      · exact Or.inr hfirst
      · have := hrest.le_of_mem hmem
        exact Or.inr (by omega)

/-- The blocks of digits lie between the ranges of letters. -/
theorem digitZeros_betweenRanges :
    digitZeros.all (betweenRanges · letterRanges) = true := by decide +kernel

theorem exists_zero_of_digitAmong {zeros : List Nat} {n value : Nat}
    (h : digitAmong zeros n = some value) : ∃ start ∈ zeros, start ≤ n ∧ n < start + 10 := by
  induction zeros with
  | nil => simp [digitAmong] at h
  | cons start rest ih =>
    rw [digitAmong] at h
    split at h
    · cases h
    · split at h
      · exact ⟨start, List.mem_cons_self, by omega, by assumption⟩
      · obtain ⟨other, hmem, hle, hlt⟩ := ih h
        exact ⟨other, List.mem_cons_of_mem _ hmem, hle, hlt⟩

/-- No letter is a decimal digit. -/
theorem isDigit_eq_false_of_isLetter {c : Char} (h : isLetter c = true) : isDigit c = false := by
  obtain ⟨r, hr, hfirst, hlast⟩ := (inRanges_iff letterRanges_ascending c.toNat).mp h
  refine Bool.eq_false_iff.mpr fun hdigit => ?_
  obtain ⟨value, hvalue⟩ := Option.isSome_iff_exists.mp hdigit
  obtain ⟨start, hmem, hle, hlt⟩ := exists_zero_of_digitAmong hvalue
  have hbetween := List.all_eq_true.mp digitZeros_betweenRanges start hmem
  rcases apart_of_betweenRanges letterRanges_ascending hbetween r hr with hbelow | habove
  · omega
  · omega

/-- No decimal digit begins a word. -/
theorem isWordStart_eq_false_of_isDigit {c : Char} (h : isDigit c = true) :
    isWordStart c = false := by
  refine Bool.eq_false_iff.mpr fun hstart => ?_
  rcases Bool.or_eq_true_iff.mp hstart with hletter | hunderscore
  · rw [isDigit_eq_false_of_isLetter hletter] at h
    exact Bool.noConfusion h
  · rw [eq_of_beq hunderscore] at h
    exact absurd h (by decide)

end Text

/-! ## The five openings -/

/-- What the first character of an item tells about it. -/
inductive Opening where
  | comment
  | word
  | number
  | string
  | sign
deriving DecidableEq

namespace Opening

/-- What a first character tells. -/
def of (c : Char) : Opening :=
  if c = '#' then .comment
  else if Text.isWordStart c then .word
  else if Text.isDigit c then .number
  else if Item.isQuote c then .string
  else .sign

/-- The reader for what the first character tells. -/
def read (opening : Opening) (c : Char) (rest : List Char) : Item × List Char :=
  match opening with
  | .comment => Item.readComment (c :: rest)
  | .word => Item.readWord (c :: rest)
  | .number => Item.readNumber (c :: rest)
  | .string => Item.readString [c] c rest
  | .sign => Item.readSign c rest

/-- What a first character tells is true of it. -/
theorem of_spec (c : Char) :
    of c = .comment ∧ c = '#' ∨ of c = .word ∧ Text.isWordStart c = true ∨
      of c = .number ∧ Text.isDigit c = true ∨ of c = .string ∧ Item.isQuote c = true ∨
      of c = .sign := by
  unfold of
  split
  · exact Or.inl ⟨rfl, by assumption⟩
  · split
    · exact Or.inr (Or.inl ⟨rfl, by assumption⟩)
    · split
      · exact Or.inr (Or.inr (Or.inl ⟨rfl, by assumption⟩))
      · split
        · exact Or.inr (Or.inr (Or.inr (Or.inl ⟨rfl, by assumption⟩)))
        · exact Or.inr (Or.inr (Or.inr (Or.inr rfl)))

theorem of_wordStart {c : Char} (h : Text.isWordStart c = true) : of c = .word := by
  have hne : c ≠ '#' := by
    rintro rfl
    exact absurd h (by decide)
  rw [of, if_neg hne, if_pos h]

theorem of_digit {c : Char} (h : Text.isDigit c = true) : of c = .number := by
  have hne : c ≠ '#' := by
    rintro rfl
    exact absurd h (by decide)
  have hstart : ¬ Text.isWordStart c = true := by
    rw [Text.isWordStart_eq_false_of_isDigit h]
    exact Bool.false_ne_true
  rw [of, if_neg hne, if_neg hstart, if_pos h]

theorem of_quote {c : Char} (h : Item.isQuote c = true) : of c = .string := by
  rcases Bool.or_eq_true_iff.mp h with hdouble | hsingle
  · rw [eq_of_beq hdouble]
    decide
  · rw [eq_of_beq hsingle]
    decide

theorem of_newline : of '\n' = .sign := by decide

theorem of_symbol {sign : Symbol} {c : Char} {rest : List Char} (h : sign.chars = c :: rest) :
    of c = .sign := by
  have hsigns : ∀ sign ∈ Symbol.all, sign.chars.head?.map of = some .sign := by decide
  have hsign := hsigns sign (Symbol.mem_all sign)
  rw [h] at hsign
  exact Option.some.inj hsign

end Opening

/-- The next item is what the reader of its first character takes. -/
theorem Item.next?_cons (c : Char) (rest : List Char) :
    Item.next? (c :: rest) = some ((Opening.of c).read c rest) := by
  rw [Item.next?, Opening.of]
  split
  · rfl
  · split
    · rfl
    · split
      · rfl
      · split <;> rfl

end LessonLexer
