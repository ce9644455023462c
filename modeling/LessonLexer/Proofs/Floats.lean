import LessonLexer.Proofs.Integers
import LessonLexer.Proofs.Rounding
import Mathlib.Algebra.BigOperators.Field

/-!
# The values of float literals

A float literal is a run of decimal digits of any scripts with a point in it, and at least one digit
before the point.  It denotes a rational number: each digit counts with the power of ten of its
place (`Numeral.placed`).  The value of the token is this number, correctly rounded.

The digits on both sides of the point are read as one natural number, and the digits behind the
point give the power of ten that it is divided by (`Numeral.placed_eq`).  The quotient is then
rounded once, so no digit is lost before, however far to the right it may stand.
-/

namespace LessonLexer

/-! ## Fractions in digits -/

namespace Numeral

/-- The number that digits denote when a point stands behind the first `point` of them. -/
def placed (point : ℕ) (digits : List ℕ) : ℚ :=
  ∑ i : Fin digits.length, (digits.get i : ℚ) * 10 ^ ((point : ℤ) - 1 - i)

/-- A text of digits with a point, and at least one digit before it, denotes a number. -/
def Denotes (text : List Char) (q : ℚ) : Prop :=
  ∃ (whole fraction : List Char) (digits : List ℕ), whole ≠ [] ∧ text = whole ++ '.' :: fraction ∧
    (whole ++ fraction).map Text.digit? = digits.map some ∧ q = placed whole.length digits

/-- Places behind the point are divided away. -/
theorem placed_eq {point places : ℕ} {digits : List ℕ} (h : digits.length = point + places) :
    placed point digits = (value digits : ℚ) / (10 ^ places : ℕ) := by
  rw [value_eq_sum, Nat.cast_sum, Finset.sum_div]
  refine Finset.sum_congr rfl fun i _ => ?_
  have hi := i.isLt
  have hplace : ((digits.length - 1 - i : ℕ) : ℤ) = (point : ℤ) - 1 - i + places := by omega
  rw [Nat.cast_mul, Nat.cast_pow, Nat.cast_pow, Nat.cast_ofNat, ← zpow_natCast, hplace,
    zpow_add₀ (by norm_num), zpow_natCast, ← mul_assoc,
    mul_div_cancel_right₀ _ (by positivity : (10 : ℚ) ^ places ≠ 0)]
  rfl

/-- A text denotes one number. -/
theorem Denotes.unique {text : List Char} {q q' : ℚ} (h : Denotes text q) (h' : Denotes text q') :
    q = q' := by
  obtain ⟨whole, fraction, digits, -, rfl, hdigits, rfl⟩ := h
  obtain ⟨whole', fraction', digits', -, hsplit, hdigits', rfl⟩ := h'
  have hall := Text.forall_isDigit hdigits
  have hall' := Text.forall_isDigit hdigits'
  obtain ⟨rfl, hrest⟩ := run_unique (fun c hc => hall c (List.mem_append_left _ hc)) (stops_point _)
    (fun c hc => hall' c (List.mem_append_left _ hc)) (stops_point _) hsplit
  obtain rfl : fraction = fraction' := (List.cons.inj hrest).2
  rw [List.map_injective_iff.mpr (Option.some_injective ℕ) (hdigits.symm.trans hdigits')]

end Numeral

/-! ## Tokens -/

/-- The number is found by rounding one quotient. -/
theorem Item.floatValue_eq (whole fraction : List Char) :
    floatValue whole fraction =
      .nearest false (Numeral.ofChars (whole ++ fraction)) (10 ^ fraction.length) := by
  have hnum : Decimal.num ⟨Numeral.ofChars (whole ++ fraction), -(fraction.length : ℤ)⟩ =
      Numeral.ofChars (whole ++ fraction) := by
    simp [Decimal.num]
  have hden : Decimal.den ⟨Numeral.ofChars (whole ++ fraction), -(fraction.length : ℤ)⟩ =
      10 ^ fraction.length := by
    simp [Decimal.den]
  rw [floatValue, Binary64.ofDecimal, hnum, hden]

/-- The lexeme of a float denotes a quotient, and the value is what this is rounded to. -/
theorem exists_quotient_of_mem_tokens {source file : String} {token : Token}
    (htoken : token ∈ (pass source file).tokens) (hkind : token.kind = .float) :
    ∃ num den : ℕ, 0 < den ∧ Numeral.Denotes token.lexeme.toList (num / den) ∧
      token.value = .float (.nearest false num den) := by
  rcases exists_item_of_mem_tokens htoken with
    ⟨location, rfl⟩ | ⟨item, rest, location, hshape, -, rfl⟩
  · cases hkind
  cases item with
  | word text => exact absurd hkind (Kind.ofWord_ne rfl _)
  | float whole fraction =>
    obtain ⟨hwhole, hfraction, -⟩ := hshape
    have hall : ∀ c ∈ whole ++ fraction, Text.isDigit c = true :=
      List.forall_mem_append.mpr ⟨hwhole.2, hfraction⟩
    obtain ⟨digits, hdigits⟩ := Text.exists_map_digit? hall
    have hlength : digits.length = whole.length + fraction.length := by
      simpa using (congrArg List.length hdigits).symm
    refine ⟨Numeral.ofChars (whole ++ fraction), 10 ^ fraction.length, by positivity, ?_, ?_⟩
    · refine ⟨whole, fraction, digits, hwhole.1, String.toList_ofList, hdigits, ?_⟩
      rw [Numeral.placed_eq hlength, Numeral.ofChars_eq hdigits]
    · exact congrArg Value.float (Item.floatValue_eq whole fraction)
  | _ => cases hkind

/-- **Floats are correctly rounded.**  The lexeme of a float is a run of digits of any scripts with
a point in it; it denotes a rational number, and the value is this number correctly rounded.  Two
lexemes that denote the same number have the same value, and a larger number never has a smaller
value. -/
theorem floats_correctly_rounded :
    (∀ (source file : String), ∀ token ∈ (pass source file).tokens, token.kind = .float →
      ∃ (q : ℚ) (number : Binary64), Numeral.Denotes token.lexeme.toList q ∧
        token.value = .float number ∧ number.IsRounding q) ∧
      ∀ (source file source' file' : String), ∀ token ∈ (pass source file).tokens,
        ∀ token' ∈ (pass source' file').tokens, token.kind = .float → token'.kind = .float →
          ∀ q q' : ℚ, Numeral.Denotes token.lexeme.toList q →
            Numeral.Denotes token'.lexeme.toList q' →
              (q = q' → token.value = token'.value) ∧
                (q ≤ q' → ∃ number number' : Binary64, token.value = .float number ∧
                  token'.value = .float number' ∧ number.AtMost number') := by
  refine ⟨?_, ?_⟩
  · intro source file token htoken hkind
    obtain ⟨num, den, hden, hdenotes, hvalue⟩ := exists_quotient_of_mem_tokens htoken hkind
    have hrounding := Binary64.isRounding_nearest num hden
    exact ⟨_, _, hdenotes, hvalue, hrounding⟩
  · intro source file source' file' token htoken token' htoken' hkind hkind' q q' hq hq'
    obtain ⟨num, den, hden, hdenotes, hvalue⟩ := exists_quotient_of_mem_tokens htoken hkind
    obtain ⟨num', den', hden', hdenotes', hvalue'⟩ := exists_quotient_of_mem_tokens htoken' hkind'
    obtain rfl := hq.unique hdenotes
    obtain rfl := hq'.unique hdenotes'
    refine ⟨fun heq => ?_, fun hle => ?_⟩
    · rw [hvalue, hvalue', Binary64.nearest_congr hden hden' heq]
    · have horder := Binary64.nearest_atMost_nearest hden hden' hle
      exact ⟨_, _, hvalue, hvalue', horder⟩

/-- A number halfway between two numbers of the format, in digits of two scripts, and the lower one
of these two, to which it is rounded. -/
theorem floats_correctly_rounded_halfway :
    ∃ lower ∈ (pass "09007199254740992.0" "f").tokens,
      ∃ halfway ∈ (pass "900719925474099٣." "f").tokens,
        (∃ (q : ℚ) (number : Binary64), Numeral.Denotes halfway.lexeme.toList q ∧
          halfway.value = .float number ∧ number.IsRounding q) ∧
        lower.value = halfway.value ∧
        ∃ number number' : Binary64, lower.value = .float number ∧
          halfway.value = .float number' ∧ number.AtMost number' := by
  have hlower : (⟨.float, "09007199254740992.0",
      .float (.finite false (9007199254740992 * Binary64.unitsPerOne)), ⟨"f", 1, 1, 0⟩⟩ : Token) ∈
        (pass "09007199254740992.0" "f").tokens := by
    decide +kernel
  have hhalfway : (⟨.float, "900719925474099٣.",
      .float (.finite false (9007199254740992 * Binary64.unitsPerOne)), ⟨"f", 1, 1, 0⟩⟩ : Token) ∈
        (pass "900719925474099٣." "f").tokens := by
    decide +kernel
  have hq : Numeral.Denotes "09007199254740992.0".toList 9007199254740992 := by
    refine ⟨"09007199254740992".toList, ['0'],
      [0, 9, 0, 0, 7, 1, 9, 9, 2, 5, 4, 7, 4, 0, 9, 9, 2, 0], by decide, by decide, by decide, ?_⟩
    rw [@Numeral.placed_eq _ 1 _ (by decide)]
    norm_num [Numeral.value]
  have hq' : Numeral.Denotes "900719925474099٣.".toList 9007199254740993 := by
    refine ⟨"900719925474099٣".toList, [],
      [9, 0, 0, 7, 1, 9, 9, 2, 5, 4, 7, 4, 0, 9, 9, 3], by decide, by decide, by decide, ?_⟩
    rw [@Numeral.placed_eq _ 0 _ (by decide)]
    norm_num [Numeral.value]
  refine ⟨_, hlower, _, hhalfway, floats_correctly_rounded.1 _ _ _ hhalfway rfl, rfl, ?_⟩
  exact (floats_correctly_rounded.2 _ _ _ _ _ hlower _ hhalfway rfl rfl _ _ hq hq').2 (by norm_num)

end LessonLexer
