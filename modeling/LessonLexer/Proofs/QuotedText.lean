import LessonLexer.Proofs.ItemShape
import Mathlib.Algebra.Group.Nat.Defs

/-!
# Reading quoted text back

A text can be told from its quoted form, even where more follows (`Text.quotedChars_append_inj`).
The first character is the delimiter, which is one of two.  Between the delimiters stand characters
and escapes.  The escapes are of different lengths, but the character behind the backslash gives the
length: two, four or eight digits behind `x`, `u` and `U`, and none behind any other character.  So
one character of the text can be read at a time (`Text.readQuotedChar_quotedChar`).  No escape
begins with the delimiter (`Text.exists_quotedChar_eq_cons`), hence the first delimiter between two
characters is the closing one, whatever the text holds.
-/

namespace LessonLexer
namespace Text

/-! ## Code points -/

/-- The hexadecimal digits in the order of their values. -/
def hexDigits : List Char :=
  ['0', '1', '2', '3', '4', '5', '6', '7', '8', '9', 'a', 'b', 'c', 'd', 'e', 'f']

/-- The number that hexadecimal digits stand for. -/
def hexValue (digits : List Char) : Nat :=
  digits.foldl (fun number c => 16 * number + hexDigits.idxOf c) 0

theorem idxOf_digitChar {digit : Nat} (h : digit < 16) :
    hexDigits.idxOf (Nat.digitChar digit) = digit := by
  have hall : ∀ digit < 16, hexDigits.idxOf (Nat.digitChar digit) = digit := by decide
  exact hall digit h

/-- The digits of a number stand for it, if there are enough of them. -/
theorem hexValue_hexPadded {width n : Nat} (h : n < 16 ^ width) :
    hexValue (hexPadded width n) = n := by
  induction width generalizing n with
  | zero => exact (Nat.lt_one_iff.mp h).symm
  | succ width ih =>
    have hlast := idxOf_digitChar (Nat.mod_lt n (show 0 < 16 by decide))
    have hothers := ih (Nat.div_lt_of_lt_mul ((Nat.pow_succ' ▸ h : n < 16 * 16 ^ width)))
    rw [hexValue] at hothers
    rw [hexPadded, hexValue, List.foldl_append, hothers, List.foldl_cons, List.foldl_nil, hlast]
    exact Nat.div_add_mod n 16

/-- Reads a character from a number of hexadecimal digits. -/
def readCode (width : Nat) (text : List Char) : Char × List Char :=
  (Char.ofNat (hexValue (text.take width)), text.drop width)

theorem readCode_hexPadded (width : Nat) {c : Char} (h : c.toNat < 16 ^ width)
    (rest : List Char) : readCode width (hexPadded width c.toNat ++ rest) = (c, rest) := by
  have hlength := length_hexPadded width c.toNat
  rw [readCode, List.take_left' hlength, List.drop_left' hlength, hexValue_hexPadded h,
    Char.ofNat_toNat]

/-! ## Escapes -/

theorem eq_of_isQuote {c : Char} (h : Item.isQuote c = true) : c = '"' ∨ c = '\'' := by
  simpa [Item.isQuote] using h

/-- Reads what stands behind a backslash. -/
def readEscape : List Char → Option (Char × List Char)
  | [] => none
  | c :: rest =>
    if c = 'n' then some ('\n', rest)
    else if c = 'r' then some ('\r', rest)
    else if c = 't' then some ('\t', rest)
    else if c = 'x' then some (readCode 2 rest)
    else if c = 'u' then some (readCode 4 rest)
    else if c = 'U' then some (readCode 8 rest)
    else some (c, rest)

/-- Reads one character, which may be escaped. -/
def readQuotedChar : List Char → Option (Char × List Char)
  | [] => none
  | c :: rest => if c = '\\' then readEscape rest else some (c, rest)

/-- The letter behind the backslash gives the number of digits. -/
theorem readQuotedChar_escapeByCode (c : Char) (rest : List Char) :
    readQuotedChar (escapeByCode c ++ rest) = some (c, rest) := by
  unfold escapeByCode
  split
  · rename_i hbyte
    exact congrArg some (readCode_hexPadded 2 hbyte rest)
  split
  · rename_i hshort
    exact congrArg some (readCode_hexPadded 4 hshort rest)
  · have hvalid : c.toNat < 0xd800 ∨ 0xdfff < c.toNat ∧ c.toNat < 0x110000 := c.valid
    have hlong : c.toNat < 16 ^ 8 := by omega
    exact congrArg some (readCode_hexPadded 8 hlong rest)

variable {delimiter : Char}

/-- A character is read from its escaped form, whatever follows. -/
theorem readQuotedChar_quotedChar (hquote : Item.isQuote delimiter = true) (c : Char)
    (rest : List Char) : readQuotedChar (quotedChar delimiter c ++ rest) = some (c, rest) := by
  unfold quotedChar
  split
  · rename_i hself
    have hcases : c = '\\' ∨ c = '"' ∨ c = '\'' := by
      rcases hself with rfl | rfl
      · exact Or.inl rfl
      · exact Or.inr (eq_of_isQuote hquote)
    rcases hcases with rfl | rfl | rfl <;> rfl
  rename_i hother
  obtain ⟨hbackslash, -⟩ := not_or.mp hother
  split
  · rename_i hc
    rw [hc]
    rfl
  split
  · rename_i hc
    rw [hc]
    rfl
  split
  · rename_i hc
    rw [hc]
    rfl
  split
  · exact if_neg hbackslash
  · exact readQuotedChar_escapeByCode c rest

/-- No escaped character begins with the delimiter. -/
theorem exists_quotedChar_eq_cons (hquote : Item.isQuote delimiter = true) (c : Char) :
    ∃ first later, quotedChar delimiter c = first :: later ∧ first ≠ delimiter := by
  have hbackslash : '\\' ≠ delimiter := (Item.ne_backslash_of_isQuote hquote).symm
  unfold quotedChar escapeByCode
  split
  · exact ⟨_, _, rfl, hbackslash⟩
  rename_i hother
  obtain ⟨-, hself⟩ := not_or.mp hother
  split_ifs
  all_goals first | exact ⟨_, _, rfl, hself⟩ | exact ⟨_, _, rfl, hbackslash⟩

/-! ## Quoted text -/

/-- The text between the delimiters ends at the first delimiter that is not escaped. -/
theorem quotedChars_between_inj (hquote : Item.isQuote delimiter = true)
    {s t rest rest' : List Char}
    (h : s.flatMap (quotedChar delimiter) ++ delimiter :: rest =
      t.flatMap (quotedChar delimiter) ++ delimiter :: rest') : s = t ∧ rest = rest' := by
  -- an end on one side only would be an escaped character that begins with the delimiter
  have hend : ∀ (c : Char) (text back back' : List Char),
      delimiter :: back ≠ (c :: text).flatMap (quotedChar delimiter) ++ back' := by
    intro c text back back' heq
    obtain ⟨first, later, hescape, hne⟩ := exists_quotedChar_eq_cons hquote c
    rw [List.flatMap_cons, hescape] at heq
    exact hne (List.cons.inj heq).1.symm
  induction s generalizing t with
  | nil =>
    cases t with
    | nil => exact ⟨rfl, (List.cons.inj h).2⟩
    | cons d t => exact absurd h (hend d t _ _)
  | cons c s ih =>
    cases t with
    | nil => exact absurd h.symm (hend c s _ _)
    | cons d t =>
      have hread := congrArg readQuotedChar h
      rw [List.flatMap_cons, List.flatMap_cons, List.append_assoc, List.append_assoc,
        readQuotedChar_quotedChar hquote, readQuotedChar_quotedChar hquote, Option.some.injEq,
        Prod.mk.injEq] at hread
      obtain ⟨rfl, hlater⟩ := hread
      obtain ⟨rfl, hrest⟩ := ih hlater
      exact ⟨rfl, hrest⟩

theorem isQuote_delimiter (text : List Char) : Item.isQuote (Text.delimiter text) = true := by
  unfold Text.delimiter
  split <;> rfl

/-- A text can be told from its quoted form, and from where this ends. -/
theorem quotedChars_append_inj {s t rest rest' : List Char}
    (h : quotedChars s ++ rest = quotedChars t ++ rest') : s = t ∧ rest = rest' := by
  simp only [quotedChars, List.cons_append, List.append_assoc, List.nil_append, List.cons.injEq]
    at h
  obtain ⟨hdelimiter, hinside⟩ := h
  rw [hdelimiter] at hinside
  exact quotedChars_between_inj (isQuote_delimiter t) hinside

end Text
end LessonLexer
