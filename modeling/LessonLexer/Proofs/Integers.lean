import LessonLexer.Proofs.Classes
import LessonLexer.Proofs.Layout
import Mathlib.Algebra.BigOperators.Fin
import Mathlib.Data.Nat.Digits.Defs

/-!
# The values of integer literals

An integer literal is a run of decimal digits of any scripts, also of several scripts in one
literal.  Its value is computed digit by digit from the left (`Numeral.value`).  Here the value is
given as a sum with a power of ten for each place (`Numeral.value_eq_sum`), and writing a number in
base ten and reading it again is shown to give the number back (`Numeral.value_digits`), with any
number of zeros in front.  The zeros count towards the limit on the number of digits, though they do
not count towards the value.

A text is related to its digits by `text.map Text.digit? = digits.map some`: every character is a
digit, and these are the values.  That the digits of a number can be written in any script is a fact
about the table: the ten characters from each of its zeros on are the digits from zero to nine
(`Text.digit?_ofNat`).
-/

namespace LessonLexer

/-! ## Digits -/

namespace Text

/-- The blocks of ten do not overlap, so the one that is found is the one that was meant. -/
theorem digitAmong_add {zeros : List Nat} (h : zeros.Pairwise fun a b => a + 10 ≤ b) {start : Nat}
    (hstart : start ∈ zeros) {digit : Nat} (hdigit : digit < 10) :
    digitAmong zeros (start + digit) = some digit := by
  induction zeros with
  | nil => cases hstart
  | cons first rest ih =>
    obtain ⟨hfirst, hrest⟩ := List.pairwise_cons.mp h
    rcases List.mem_cons.mp hstart with rfl | hmem
    · rw [digitAmong, if_neg (by omega), if_pos (by omega), Nat.add_sub_cancel_left]
    · have hapart := hfirst start hmem
      rw [digitAmong, if_neg (by omega), if_neg (by omega), ih hrest hmem]

/-- The characters from a zero on are the ten digits of its script. -/
theorem digit?_ofNat {start : Nat} (hstart : start ∈ digitZeros) {digit : Nat}
    (hdigit : digit < 10) : digit? (Char.ofNat (start + digit)) = some digit := by
  have hapart : digitZeros.Pairwise fun a b => a + 10 ≤ b := by decide +kernel
  have hvalid : ∀ start ∈ digitZeros,
      start + 10 ≤ 0xD800 ∨ 0xDFFF < start ∧ start + 10 ≤ 0x110000 := by
    decide +kernel
  have hchar : (start + digit).isValidChar := by
    rcases hvalid start hstart with hbelow | ⟨habove, hbelow⟩
    · exact Or.inl (by omega)
    · exact Or.inr ⟨by omega, by omega⟩
  have htoNat : (Char.ofNat (start + digit)).toNat = start + digit := by
    rw [Char.ofNat, dif_pos hchar]
    rfl
  rw [digit?, htoNat, digitAmong_add hapart hstart hdigit]

/-- A run of digits has values. -/
theorem exists_map_digit? {text : List Char} (h : ∀ c ∈ text, isDigit c = true) :
    ∃ digits : List Nat, text.map digit? = digits.map some := by
  induction text with
  | nil => exact ⟨[], rfl⟩
  | cons c text ih =>
    obtain ⟨hc, hlater⟩ := List.forall_mem_cons.mp h
    obtain ⟨digit, hdigit⟩ := Option.isSome_iff_exists.mp hc
    obtain ⟨digits, hdigits⟩ := ih hlater
    exact ⟨digit :: digits, by rw [List.map_cons, List.map_cons, hdigit, hdigits]⟩

/-- And what has values is a run of digits. -/
theorem forall_isDigit {text : List Char} {digits : List Nat}
    (h : text.map digit? = digits.map some) : ∀ c ∈ text, isDigit c = true := by
  intro c hc
  have hmem : digit? c ∈ digits.map some := h ▸ List.mem_map_of_mem hc
  obtain ⟨digit, -, hdigit⟩ := List.mem_map.mp hmem
  rw [isDigit, ← hdigit]
  rfl

end Text

/-! ## Values -/

namespace Numeral

/-- The first digit weighs as much as there are digits behind it. -/
theorem value_cons (digit : Nat) (digits : List Nat) :
    value (digit :: digits) = digit * 10 ^ digits.length + value digits := by
  induction digits using List.reverseRecOn with
  | nil => simp [value]
  | append_singleton digits last ih =>
    rw [← List.cons_append, value_append_singleton, value_append_singleton, ih,
      List.length_append, List.length_singleton, pow_succ]
    ring

/-- The value is the sum over the places. -/
theorem value_eq_sum (digits : List Nat) :
    value digits = ∑ i : Fin digits.length, digits[i] * 10 ^ (digits.length - 1 - i) := by
  induction digits with
  | nil => rfl
  | cons digit digits ih =>
    have hplaces : ∀ i : Fin digits.length,
        digits.length - 1 - i = (digit :: digits).length - 1 - i.succ := by
      intro i
      rw [List.length_cons, Fin.val_succ]
      omega
    show _ = ∑ i : Fin (digits.length + 1), _
    rw [value_cons, ih, Fin.sum_univ_succ]
    simp only [hplaces]
    rfl

/-- Zeros in front have no value. -/
theorem value_replicate_append (k : Nat) (digits : List Nat) :
    value (List.replicate k 0 ++ digits) = value digits := by
  induction k with
  | zero => rfl
  | succ k ih => rw [List.replicate_succ, List.cons_append, value_cons, ih, zero_mul, zero_add]

theorem value_reverse (digits : List Nat) : value digits.reverse = Nat.ofDigits 10 digits := by
  induction digits with
  | nil => rfl
  | cons digit digits ih =>
    rw [List.reverse_cons, value_append_singleton, ih, Nat.ofDigits_cons, Nat.add_comm]

/-- A number that is written in base ten, with zeros in front, is read again. -/
theorem value_digits (m k : Nat) :
    value (List.replicate k 0 ++ (Nat.digits 10 m).reverse) = m := by
  rw [value_replicate_append, value_reverse, Nat.ofDigits_digits]

/-- The number of a run of digits is that of their values. -/
theorem ofChars_eq {text : List Char} {digits : List Nat}
    (h : text.map Text.digit? = digits.map some) : ofChars text = value digits := by
  have hvalues : text.filterMap Text.digit? = (text.map Text.digit?).filterMap id := by
    rw [List.filterMap_map]
    rfl
  rw [ofChars, hvalues, h, List.filterMap_map]
  exact congrArg value List.filterMap_some

end Numeral

/-! ## Tokens -/

theorem Text.isBlank_eq_false_of_isDigit {c : Char} (h : isDigit c = true) : isBlank c = false := by
  have hgap : gapSigns.any isDigit = false := by decide
  refine Bool.eq_false_iff.mpr fun hblank => ?_
  exact List.any_eq_false.mp hgap c (mem_gapSigns_of_isBlank hblank) h

/-- A run of digits has their value, if there are not too many. -/
theorem IsDigitRun.value_eq {text : List Char} (h : IsDigitRun text) {digits : List Nat}
    (hdigits : text.map Text.digit? = digits.map some) :
    (Item.integer text).value =
      if digits.length ≤ 4300 then .int (Numeral.value digits) else .none := by
  have hlength : text.length = digits.length := by
    simpa using congrArg List.length hdigits
  rw [Item.value_integer h.1, Numeral.ofChars_eq hdigits, hlength]

/-- A run of digits leads the text that consists of it. -/
theorem IsDigitRun.leads {digits : List Char} (h : IsDigitRun digits) :
    (Item.integer digits).Leads [] := by
  have hshape : (Item.integer digits).Shape [] :=
    ⟨h, stops_nil _, fun hpoint => by cases hpoint⟩
  obtain ⟨c, rest, rfl, hc⟩ := h.exists_cons
  exact ⟨Item.next?_of_shape hshape, stops_cons.mpr (Text.isBlank_eq_false_of_isDigit hc)⟩

/-- A text that is a run of digits has one token besides that for the end. -/
theorem IsDigitRun.tokensFrom_eq {digits : List Char} (h : IsDigitRun digits) (file : String) :
    tokensFrom file .start digits = [(Item.integer digits).token ⟨file, 1, 1, 0⟩,
      endToken ⟨file, 1, 1 + digits.length, digits.length⟩] := by
  have hnewline : '\n' ∉ digits := fun hmem => absurd (h.2 _ hmem) (by decide)
  have hlead := tokensFrom_lead file .start (fun _ heq => by cases heq) isBlankText_nil h.leads
  rw [tokensFrom_blank file _ isBlankText_nil, List.nil_append, List.append_nil] at hlead
  refine hlead.trans ?_
  rw [Position.after_nil, Position.after_nil, Item.raw,
    Position.after_of_not_newline_mem hnewline, Position.start, Nat.zero_add]
  rfl

/-- And it has no error. -/
theorem IsDigitRun.errorsFrom_eq {digits : List Char} (h : IsDigitRun digits) (file : String) :
    errorsFrom file .start digits = [] := by
  have hlead := errorsFrom_lead file .start isBlankText_nil h.leads
  rw [errorsFrom_blank file _ isBlankText_nil, List.nil_append, List.append_nil] at hlead
  exact hlead

/-- The lexeme of an integer is a run of digits, and its value is the sum over their places. -/
theorem exists_digits_of_mem_tokens {source file : String} {token : Token}
    (htoken : token ∈ (pass source file).tokens) (hkind : token.kind = .integer) :
    ∃ digits : List Nat, digits ≠ [] ∧
      token.lexeme.toList.map Text.digit? = digits.map some ∧
      token.value = if digits.length ≤ 4300 then
        .int (∑ i : Fin digits.length, digits[i] * 10 ^ (digits.length - 1 - i) : Nat)
      else .none := by
  rcases exists_item_of_mem_tokens htoken with
    ⟨location, rfl⟩ | ⟨item, rest, location, hshape, -, rfl⟩
  · cases hkind
  cases item with
  | word text => exact absurd hkind (Kind.ofWord_ne rfl _)
  | integer text =>
    have hrun : IsDigitRun text := hshape.1
    obtain ⟨digits, hdigits⟩ := Text.exists_map_digit? hrun.2
    refine ⟨digits, ?_, ?_, ?_⟩
    · rintro rfl
      exact hrun.1 (List.map_eq_nil_iff.mp hdigits)
    · show (String.ofList text).toList.map Text.digit? = _
      rw [String.toList_ofList, hdigits]
    · rw [← Numeral.value_eq_sum]
      exact hrun.value_eq hdigits
  | _ => cases hkind

/-- A source in which a number is written, with any zeros in front, gives the number. -/
theorem pass_numeral {m k : Nat} {text : String} (htext : text ≠ "") (hlength : text.length ≤ 4300)
    (hdigits : text.toList.map Text.digit? =
      (List.replicate k 0 ++ (Nat.digits 10 m).reverse).map some) (file : String) :
    (pass text file).tokens = [⟨.integer, text, .int m, ⟨file, 1, 1, 0⟩⟩,
        endToken ⟨file, 1, 1 + text.length, text.length⟩] ∧
      (pass text file).errors = [] := by
  have hne : text.toList ≠ [] := fun hnil => htext (String.toList_eq_nil_iff.mp hnil)
  have hrun : IsDigitRun text.toList := ⟨hne, Text.forall_isDigit hdigits⟩
  have hvalue := hrun.value_eq hdigits
  have hcount := congrArg List.length hdigits
  rw [List.length_map, List.length_map, String.length_toList] at hcount
  rw [if_pos (hcount ▸ hlength), Numeral.value_digits] at hvalue
  have hlexeme : (Item.integer text.toList).lexeme = text := String.ofList_toList
  refine ⟨?_, (pass_errors text file).trans (hrun.errorsFrom_eq file)⟩
  rw [pass_tokens, hrun.tokensFrom_eq, Item.token, hvalue, hlexeme, String.length_toList]
  rfl

/-- **Integers are exact.**  The lexeme of an integer is a run of digits of any scripts, and the
value is the sum of the digits, each times the power of ten of its place, if there are at most 4300
of them.  A number that is written in the digits of any scripts, with any zeros in front, is read
again. -/
theorem integers_exact :
    (∀ (source file : String), ∀ token ∈ (pass source file).tokens, token.kind = .integer →
      ∃ digits : List Nat, digits ≠ [] ∧
        token.lexeme.toList.map Text.digit? = digits.map some ∧
        token.value = if digits.length ≤ 4300 then
          .int (∑ i : Fin digits.length, digits[i] * 10 ^ (digits.length - 1 - i) : Nat)
        else .none) ∧
      (∀ (m k : Nat) (text file : String), text ≠ "" → text.length ≤ 4300 →
        text.toList.map Text.digit? = (List.replicate k 0 ++ (Nat.digits 10 m).reverse).map some →
        (pass text file).tokens = [⟨.integer, text, .int m, ⟨file, 1, 1, 0⟩⟩,
            endToken ⟨file, 1, 1 + text.length, text.length⟩] ∧
          (pass text file).errors = []) ∧
      ∀ start ∈ Text.digitZeros, ∀ digit < 10,
        Text.digit? (Char.ofNat (start + digit)) = some digit := by
  refine ⟨?_, ?_, ?_⟩
  · intro source file token htoken hkind
    exact exists_digits_of_mem_tokens htoken hkind
  · intro m k text file htext hlength hdigits
    exact pass_numeral htext hlength hdigits file
  · intro start hstart digit hdigit
    exact Text.digit?_ofNat hstart hdigit

/-- A number in the digits of three scripts, with a zero in front. -/
theorem integers_exact_three_scripts :
    (pass "٠4２" "f").tokens = [⟨.integer, "٠4２", .int 42, ⟨"f", 1, 1, 0⟩⟩,
      endToken ⟨"f", 1, 4, 3⟩] :=
  (integers_exact.2.1 42 1 "٠4２" "f" (by decide) (by decide) (by decide)).1

end LessonLexer
