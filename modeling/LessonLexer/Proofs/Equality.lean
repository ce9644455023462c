import LessonLexer.Proofs.Floats

/-!
# Equality of tokens

Two tokens are equal if kind, lexeme and location agree and the values are equal.  Equal values need
not be of the same sort: a truth value is equal to zero or one, and a whole number is equal to a
floating-point number that stands for the same rational number (`Value.Equal`).  If the whole number
were rounded to the format first, the numbers `2 ^ 53` and `2 ^ 53 + 1` would be equal to the same
floating-point number, and equality would not be transitive.

It is transitive because every value has one worth, by which it is compared with all others.  The
worth of a number is a count of units, and the count stands for the same rational number as the
value (`Value.number?_eq`).  So equal worths mean equal numbers (`Value.same_iff_equal`).  Only the
not-a-number has no worth (`Value.worth_eq_none_iff`).  A token with any other value is equal to
itself; of a token with this one nothing is said, since what holds of its value need not hold of the
object that is compared.

Among the tokens of passes, those with the same kind and lexeme have the same value, whatever
sources they come from (`value_eq_of_mem_tokens`).  This holds for numbers as well: the lexeme gives
the digits, and the digits give the value.
-/

namespace LessonLexer

/-! ## The numbers that values stand for -/

/-- The rational number that a finite number of the format stands for. -/
def Binary64.toRat? : Binary64 → Option ℚ
  | .finite false units => some (units * 2 ^ (-1074 : ℤ))
  | .finite true units => some (-(units * 2 ^ (-1074 : ℤ)))
  | .infinite _ | .nan => none

/-- The rational number that a worth stands for. -/
def Worth.toRat? : Worth → Option ℚ
  | .amount units => some (units * 2 ^ (-1074 : ℤ))
  | .nothing | .text _ | .infinite _ => none

namespace Value

/-- The rational number that a value stands for. -/
def number? : Value → Option ℚ
  | .bool false => some 0
  | .bool true => some 1
  | .int number => some number
  | .float number => number.toRat?
  | .none | .text _ => Option.none

/-- The values that are equal: those of the same sort if they are the same, and those that stand for
the same number. -/
inductive Equal : Value → Value → Prop where
  | none : Equal .none .none
  | text (content : String) : Equal (.text content) (.text content)
  | number {a b : Value} {q : ℚ} : a.number? = some q → b.number? = some q → Equal a b
  | infinite (negative : Bool) :
    Equal (.float (.infinite negative)) (.float (.infinite negative))

/-- A value and its worth stand for the same number. -/
theorem number?_eq (v : Value) : v.number? = v.worth.bind Worth.toRat? := by
  cases v with
  | none => rfl
  | text content => rfl
  | bool truth =>
    cases truth with
    | false =>
      show some (0 : ℚ) = some (((0 : ℤ) : ℚ) * 2 ^ (-1074 : ℤ))
      rw [Int.cast_zero, zero_mul]
    | true =>
      show some (1 : ℚ) = some (((Binary64.unitsPerOne : ℤ) : ℚ) * 2 ^ (-1074 : ℤ))
      rw [Int.cast_natCast, Binary64.cast_unitsPerOne_mul]
  | int number =>
    show some (number : ℚ) = some (((number * Binary64.unitsPerOne : ℤ) : ℚ) * 2 ^ (-1074 : ℤ))
    rw [Int.cast_mul, Int.cast_natCast, mul_assoc, Binary64.cast_unitsPerOne_mul, mul_one]
  | float number =>
    cases number with
    | finite negative units =>
      cases negative with
      | false =>
        show some ((units : ℚ) * 2 ^ (-1074 : ℤ)) = some (((units : ℤ) : ℚ) * 2 ^ (-1074 : ℤ))
        rw [Int.cast_natCast]
      | true =>
        show some (-((units : ℚ) * 2 ^ (-1074 : ℤ))) =
          some (((-(units : ℤ) : ℤ) : ℚ) * 2 ^ (-1074 : ℤ))
        rw [Int.cast_neg, Int.cast_natCast, neg_mul]
    | infinite negative => rfl
    | nan => rfl

theorem number?_eq_some_iff {v : Value} {q : ℚ} :
    v.number? = some q ↔
      ∃ units : ℤ, v.worth = some (.amount units) ∧ units * 2 ^ (-1074 : ℤ) = q := by
  rw [number?_eq, Option.bind_eq_some_iff]
  constructor
  · rintro ⟨worth, hworth, hq⟩
    cases worth with
    | amount units => exact ⟨units, hworth, Option.some.inj hq⟩
    | _ => cases hq
  · rintro ⟨units, hworth, rfl⟩
    exact ⟨_, hworth, rfl⟩

/-! ## Equal values -/

/-- Only the not-a-number is worth nothing that it could be compared by. -/
theorem worth_eq_none_iff {v : Value} : v.worth = Option.none ↔ v = .float .nan := by
  refine ⟨fun h => ?_, fun h => h ▸ rfl⟩
  cases v with
  | float number =>
    cases number with
    | nan => rfl
    | _ => cases h
  | _ => cases h

theorem eq_none_of_worth {v : Value} (h : v.worth = some .nothing) : v = .none := by
  cases v with
  | none => rfl
  | float number => cases number <;> cases h
  | _ => cases h

theorem eq_text_of_worth {v : Value} {content : String} (h : v.worth = some (.text content)) :
    v = .text content := by
  cases v with
  | text content' =>
    cases h
    rfl
  | float number => cases number <;> cases h
  | _ => cases h

theorem eq_infinite_of_worth {v : Value} {negative : Bool}
    (h : v.worth = some (.infinite negative)) : v = .float (.infinite negative) := by
  cases v with
  | float number =>
    cases number with
    | infinite negative' =>
      cases h
      rfl
    | _ => cases h
  | _ => cases h

/-- Values have the same worth exactly if they are equal. -/
theorem same_iff_equal {a b : Value} : a.same b = true ↔ a.Equal b := by
  rw [same_iff]
  constructor
  · rintro ⟨worth, ha, hb⟩
    cases worth with
    | nothing =>
      rw [eq_none_of_worth ha, eq_none_of_worth hb]
      exact .none
    | text content =>
      rw [eq_text_of_worth ha, eq_text_of_worth hb]
      exact .text content
    | amount units =>
      exact .number (number?_eq_some_iff.mpr ⟨units, ha, rfl⟩)
        (number?_eq_some_iff.mpr ⟨units, hb, rfl⟩)
    | infinite negative =>
      rw [eq_infinite_of_worth ha, eq_infinite_of_worth hb]
      exact .infinite negative
  · intro h
    cases h with
    | none => exact ⟨_, rfl, rfl⟩
    | text content => exact ⟨_, rfl, rfl⟩
    | number ha hb =>
      obtain ⟨units, ha, hq⟩ := number?_eq_some_iff.mp ha
      obtain ⟨units', hb, hq'⟩ := number?_eq_some_iff.mp hb
      have hunit : (2 : ℚ) ^ (-1074 : ℤ) ≠ 0 := zpow_ne_zero _ two_ne_zero
      obtain rfl : units = units' :=
        Int.cast_injective (mul_right_cancel₀ hunit (hq.trans hq'.symm))
      exact ⟨_, ha, hb⟩
    | infinite negative => exact ⟨_, rfl, rfl⟩

theorem same_symm {a b : Value} (h : a.same b = true) : b.same a = true := by
  obtain ⟨worth, ha, hb⟩ := (same_iff a b).mp h
  exact (same_iff b a).mpr ⟨worth, hb, ha⟩

theorem same_trans {a b c : Value} (h : a.same b = true) (h' : b.same c = true) :
    a.same c = true := by
  obtain ⟨worth, ha, hb⟩ := (same_iff a b).mp h
  obtain ⟨worth', hb', hc⟩ := (same_iff b c).mp h'
  obtain rfl : worth = worth' := Option.some.inj (hb.symm.trans hb')
  exact (same_iff a c).mpr ⟨worth, ha, hc⟩

/-- A value off the not-a-number is equal to itself. -/
theorem same_self {a : Value} (h : a ≠ .float .nan) : a.same a = true := by
  obtain ⟨worth, hworth⟩ := Option.ne_none_iff_exists'.mp (mt worth_eq_none_iff.mp h)
  exact (same_iff a a).mpr ⟨worth, hworth, hworth⟩

end Value

/-! ## Equal tokens -/

namespace Token

theorem same_iff {a b : Token} : a.same b = true ↔
    a.kind = b.kind ∧ a.lexeme = b.lexeme ∧ a.value.same b.value = true ∧
      a.location = b.location := by
  simp only [same, Bool.and_eq_true, beq_iff_eq, and_assoc]

theorem same_symm {a b : Token} (h : a.same b = true) : b.same a = true := by
  obtain ⟨hkind, hlexeme, hvalue, hlocation⟩ := same_iff.mp h
  exact same_iff.mpr ⟨hkind.symm, hlexeme.symm, Value.same_symm hvalue, hlocation.symm⟩

theorem same_trans {a b c : Token} (h : a.same b = true) (h' : b.same c = true) :
    a.same c = true := by
  obtain ⟨hkind, hlexeme, hvalue, hlocation⟩ := same_iff.mp h
  obtain ⟨hkind', hlexeme', hvalue', hlocation'⟩ := same_iff.mp h'
  exact same_iff.mpr ⟨hkind.trans hkind', hlexeme.trans hlexeme', Value.same_trans hvalue hvalue',
    hlocation.trans hlocation'⟩

theorem same_self {a : Token} (h : a.value ≠ .float .nan) : a.same a = true :=
  same_iff.mpr ⟨rfl, rfl, Value.same_self h, rfl⟩

end Token

/-! ## Tokens of passes -/

/-- Where the kind is not that of a number, the value can be told from kind and lexeme. -/
theorem Token.HasValue.value_eq {a b : Token} (ha : a.HasValue) (hb : b.HasValue)
    (hkind : a.kind = b.kind) (hlexeme : a.lexeme = b.lexeme) (hinteger : a.kind ≠ .integer)
    (hfloat : a.kind ≠ .float) : a.value = b.value := by
  obtain ⟨kind, lexeme, value, location⟩ := a
  obtain ⟨kind', lexeme', value', location'⟩ := b
  obtain rfl : kind = kind' := hkind
  obtain rfl : lexeme = lexeme' := hlexeme
  cases kind with
  | integer => exact absurd rfl hinteger
  | float => exact absurd rfl hfloat
  | boolean => exact ha.2.trans hb.2.symm
  | _ => exact ha.trans hb.symm

/-- Only a float has a floating-point number as its value. -/
theorem Token.HasValue.kind_eq_float {t : Token} (h : t.HasValue) {number : Binary64}
    (hvalue : t.value = .float number) : t.kind = .float := by
  obtain ⟨kind, lexeme, value, location⟩ := t
  obtain rfl : value = .float number := hvalue
  cases kind with
  | float => rfl
  | boolean => cases h.2
  | integer =>
    obtain ⟨-, hnone, hsome⟩ := h
    cases Nat.lt_or_ge 4300 lexeme.length with
    | inl hlong => cases hnone.mpr hlong
    | inr hshort =>
      obtain ⟨number, hint⟩ := hsome hshort
      cases hint
  | _ => cases h

theorem hasValue_of_mem_tokens {source file : String} {token : Token}
    (h : token ∈ (pass source file).tokens) : token.HasValue := by
  rcases exists_item_of_mem_tokens h with ⟨location, rfl⟩ | ⟨item, rest, location, hshape, -, rfl⟩
  · rfl
  · exact hshape.hasValue location

variable {source file source' file' : String} {a b : Token}

/-- Tokens with the same kind and lexeme have the same value, whatever sources they come from. -/
theorem value_eq_of_mem_tokens (ha : a ∈ (pass source file).tokens)
    (hb : b ∈ (pass source' file').tokens) (hkind : a.kind = b.kind)
    (hlexeme : a.lexeme = b.lexeme) : a.value = b.value := by
  by_cases hinteger : a.kind = .integer
  · obtain ⟨digits, -, hdigits, hvalue⟩ := exists_digits_of_mem_tokens ha hinteger
    obtain ⟨digits', -, hdigits', hvalue'⟩ := exists_digits_of_mem_tokens hb (hkind ▸ hinteger)
    rw [hlexeme] at hdigits
    obtain rfl : digits = digits' :=
      List.map_injective_iff.mpr (Option.some_injective Nat) (hdigits.symm.trans hdigits')
    exact hvalue.trans hvalue'.symm
  by_cases hfloat : a.kind = .float
  · obtain ⟨num, den, hden, hdenotes, hvalue⟩ := exists_quotient_of_mem_tokens ha hfloat
    obtain ⟨num', den', hden', hdenotes', hvalue'⟩ :=
      exists_quotient_of_mem_tokens hb (hkind ▸ hfloat)
    rw [hlexeme] at hdenotes
    rw [hvalue, hvalue', Binary64.nearest_congr hden hden' (hdenotes.unique hdenotes')]
  · exact (hasValue_of_mem_tokens ha).value_eq (hasValue_of_mem_tokens hb) hkind hlexeme hinteger
      hfloat

/-- No token has the not-a-number as its value. -/
theorem value_ne_nan_of_mem_tokens (ha : a ∈ (pass source file).tokens) :
    a.value ≠ .float .nan := by
  intro hnan
  have hkind := (hasValue_of_mem_tokens ha).kind_eq_float hnan
  obtain ⟨num, den, -, -, hvalue⟩ := exists_quotient_of_mem_tokens ha hkind
  exact Binary64.nearest_ne_nan false num den (Value.float.inj (hvalue.symm.trans hnan))

/-- So among the tokens of passes the value plays no part in the comparison. -/
theorem same_iff_of_mem_tokens (ha : a ∈ (pass source file).tokens)
    (hb : b ∈ (pass source' file').tokens) :
    a.same b = true ↔ a.kind = b.kind ∧ a.lexeme = b.lexeme ∧ a.location = b.location := by
  rw [Token.same_iff]
  constructor
  · rintro ⟨hkind, hlexeme, -, hlocation⟩
    exact ⟨hkind, hlexeme, hlocation⟩
  · rintro ⟨hkind, hlexeme, hlocation⟩
    refine ⟨hkind, hlexeme, ?_, hlocation⟩
    rw [← value_eq_of_mem_tokens ha hb hkind hlexeme]
    exact Value.same_self (value_ne_nan_of_mem_tokens ha)

/-- **Equality of tokens is a sound equivalence.**  Tokens are equal if everything agrees, where
truth values count as zero and one, and numbers are equal if they are the same rational number.
This is symmetric and transitive, and every token off the not-a-number is equal to itself.  Two
tokens of passes, over any sources, are equal if they have the same kind, lexeme and location, and
then their values are the same and of the same sort. -/
theorem token_equality_sound :
    (∀ a b : Token, a.same b = true ↔
      a.kind = b.kind ∧ a.lexeme = b.lexeme ∧ a.value.Equal b.value ∧ a.location = b.location) ∧
    (∀ a b : Token, a.same b = true → b.same a = true) ∧
    (∀ a b c : Token, a.same b = true → b.same c = true → a.same c = true) ∧
    (∀ a : Token, a.value ≠ .float .nan → a.same a = true) ∧
    ∀ source file source' file' : String, ∀ a ∈ (pass source file).tokens,
      ∀ b ∈ (pass source' file').tokens,
        (a.same b = true ↔ a.kind = b.kind ∧ a.lexeme = b.lexeme ∧ a.location = b.location) ∧
          (a.same b = true → a.value = b.value) := by
  refine ⟨fun a b => ?_, fun a b => Token.same_symm, fun a b c => Token.same_trans,
    fun a => Token.same_self, ?_⟩
  · rw [Token.same_iff, Value.same_iff_equal]
  · intro source file source' file' a ha b hb
    refine ⟨same_iff_of_mem_tokens ha hb, fun h => ?_⟩
    obtain ⟨hkind, hlexeme, -, -⟩ := Token.same_iff.mp h
    exact value_eq_of_mem_tokens ha hb hkind hlexeme

/-- Tokens with the truth value, the whole number and the floating-point number one, the last also
compared with itself, and equal tokens of two sources. -/
theorem token_equality_sound_one :
    (∃ a b c : Token, a.value = .bool true ∧ b.value = .int 1 ∧
      c.value = .float (.finite false Binary64.unitsPerOne) ∧ b.same a = true ∧
        a.same c = true ∧ c.same c = true) ∧
      ∃ a ∈ (pass "1.0 + x" "f").tokens, ∃ b ∈ (pass "1.0" "f").tokens,
        a.same b = true ∧ a.value = b.value := by
  have hab : Token.same ⟨.integer, "1", .bool true, ⟨"f", 1, 1, 0⟩⟩
      ⟨.integer, "1", .int 1, ⟨"f", 1, 1, 0⟩⟩ = true := by decide +kernel
  have hbc : Token.same ⟨.integer, "1", .int 1, ⟨"f", 1, 1, 0⟩⟩
      ⟨.integer, "1", .float (.finite false Binary64.unitsPerOne), ⟨"f", 1, 1, 0⟩⟩ = true := by
    decide +kernel
  have hfirst : (⟨.float, "1.0", .float (.finite false Binary64.unitsPerOne), ⟨"f", 1, 1, 0⟩⟩ :
      Token) ∈ (pass "1.0 + x" "f").tokens := by decide +kernel
  have hsecond : (⟨.float, "1.0", .float (.finite false Binary64.unitsPerOne), ⟨"f", 1, 1, 0⟩⟩ :
      Token) ∈ (pass "1.0" "f").tokens := by decide +kernel
  obtain ⟨-, hsymm, htrans, hself, hpasses⟩ := token_equality_sound
  obtain ⟨hiff, hvalue⟩ := hpasses _ _ _ _ _ hfirst _ hsecond
  exact ⟨⟨_, _, _, rfl, rfl, rfl, hsymm _ _ hab, htrans _ _ _ hab hbc, hself _ (by decide)⟩,
    _, hfirst, _, hsecond, hiff.mpr ⟨rfl, rfl, rfl⟩, hvalue (hiff.mpr ⟨rfl, rfl, rfl⟩)⟩

end LessonLexer
