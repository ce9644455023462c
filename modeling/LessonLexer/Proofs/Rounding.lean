import LessonLexer.Proofs.Significands
import Mathlib.Algebra.Order.Field.Power
import Mathlib.Tactic.NormNum.Pow

/-!
# Correct rounding

The format is described here by rational numbers: an integer of 53 bits times a power of two with
an exponent from -1074 to 971 (`Binary64.IsNumber`), and the infinity beyond.  A quotient is rounded
correctly if the result is the number of the format closest to it, where a tie goes to the even
significand, and the infinity from the middle between the largest number and `2 ^ 1024` on
(`Binary64.IsRounding`).

`Binary64.nearest` does not know of exponents.  It rounds to a count of units, which has 53 bits but
could be of any size (`nearestUnits_isClosest`), and compares it with the overflow.  Two facts bring
the two descriptions together.  A count below the overflow has an exponent in the range
(`isNumber_iff`), and the count stays below it exactly if the quotient stays below the middle
(`IsClosest.lt_two_pow_iff`).
-/

namespace LessonLexer
namespace Binary64

/-! ## The format -/

/-- A number of the format that is not negative: an integer of 53 bits times a power of two. -/
def IsNumber (x : ℚ) : Prop :=
  ∃ (significand : ℕ) (exponent : ℤ), significand < 2 ^ 53 ∧ -1074 ≤ exponent ∧ exponent ≤ 971 ∧
    x = significand * 2 ^ exponent

/-- A number of the format whose significand is even.  The significand is the one with its leading
bit set or with the least exponent. -/
def HasEvenSignificand (x : ℚ) : Prop :=
  ∃ (significand : ℕ) (exponent : ℤ), significand < 2 ^ 53 ∧ -1074 ≤ exponent ∧ exponent ≤ 971 ∧
    (2 ^ 52 ≤ significand ∨ exponent = -1074) ∧ x = significand * 2 ^ exponent ∧ Even significand

/-- A number of the format is closest to a given one, and of two that are equally close it is the
one with the even significand. -/
structure IsNearest (q x : ℚ) : Prop where
  isNumber : IsNumber x
  closest : ∀ y, IsNumber y → |q - x| ≤ |q - y|
  even_of_tie : ∀ y, IsNumber y → y ≠ x → |q - y| = |q - x| → HasEvenSignificand x

/-- The number is the correctly rounded `q`: below the middle between the largest number of the
format and `2 ^ 1024` it is the nearest number, and from there on it is the positive infinity. -/
structure IsRounding (q : ℚ) (number : Binary64) : Prop where
  finite : q < 2 ^ 1024 - 2 ^ 970 → ∃ units : ℕ, number = .finite false units ∧
    IsNearest q (units * 2 ^ (-1074 : ℤ))
  infinite : 2 ^ 1024 - 2 ^ 970 ≤ q → number = .infinite false

/-- The order of the numbers and the infinities. -/
inductive AtMost : Binary64 → Binary64 → Prop where
  | finite {negative negative' : Bool} {units units' : ℕ} :
    (if negative then -(units : ℤ) else units) ≤ (if negative' then -(units' : ℤ) else units') →
      AtMost (.finite negative units) (.finite negative' units')
  | above_least {number : Binary64} : number ≠ .nan → AtMost (.infinite true) number
  | below_greatest {number : Binary64} : number ≠ .nan → AtMost number (.infinite false)

/-! ## Numbers and counts of units -/

-- the exponents are generalized, or else their powers would be evaluated
theorem unitsPerOne_eq : unitsPerOne = 2 ^ 1074 := by
  unfold unitsPerOne
  generalize 1074 = exponent
  exact Nat.pow_eq

theorem overflow_eq : overflow = 2 ^ 2098 := by
  unfold overflow
  generalize 2098 = exponent
  exact Nat.pow_eq

/-- One, in units. -/
theorem cast_unitsPerOne_mul : (unitsPerOne : ℚ) * 2 ^ (-1074 : ℤ) = 1 := by
  rw [unitsPerOne_eq, Nat.cast_pow, Nat.cast_ofNat, ← zpow_natCast, ← zpow_add₀ two_ne_zero]
  exact zpow_zero 2

/-- The shift of a significand adds to the exponent. -/
theorem cast_shift_mul_zpow (significand spare : ℕ) (exponent : ℤ) :
    ((significand * 2 ^ spare : ℕ) : ℚ) * 2 ^ exponent =
      significand * 2 ^ ((spare : ℤ) + exponent) := by
  rw [zpow_add₀ two_ne_zero, zpow_natCast, ← mul_assoc, Nat.cast_mul, Nat.cast_pow, Nat.cast_ofNat]

theorem fits_iff {units : ℕ} : Fits units ↔ Significant units ∧ units < overflow := by
  simp only [Fits, Significant, Nat.pow_eq, and_comm]

/-- Below the overflow the format has room for the exponent.  A longer shift leaves bits of the
significand free, and they take it up. -/
theorem Fits.isNumber {units : ℕ} (h : Fits units) : IsNumber (units * 2 ^ (-1074 : ℤ)) := by
  obtain ⟨⟨significand, spare, hbits, rfl⟩, hlt⟩ := fits_iff.mp h
  rcases Nat.lt_or_ge 2045 spare with hlong | hshort
  · obtain ⟨extra, rfl⟩ := Nat.exists_eq_add_of_le hlong.le
    rw [overflow_eq, show 2098 = 2045 + 53 from rfl, pow_add, pow_add, mul_left_comm] at hlt
    refine ⟨significand * 2 ^ extra, 971, lt_of_mul_lt_mul_left hlt (Nat.zero_le _), by omega,
      le_rfl, ?_⟩
    rw [cast_shift_mul_zpow, Nat.cast_mul, Nat.cast_pow, Nat.cast_ofNat, mul_assoc, ← zpow_natCast,
      ← zpow_add₀ two_ne_zero]
    congr 2
    push_cast
    ring
  · exact ⟨significand, spare + -1074, hbits, by omega, by omega, cast_shift_mul_zpow _ _ _⟩

theorem shift_lt_two_pow {significand spare most : ℕ} (hbits : significand < 2 ^ 53)
    (hle : spare ≤ most) : significand * 2 ^ spare < 2 ^ (53 + most) := by
  rw [pow_add]
  exact Nat.mul_lt_mul_of_lt_of_le hbits (Nat.pow_le_pow_right two_pos hle) (Nat.two_pow_pos _)

/-- The numbers of the format are the counts of units that fit. -/
theorem isNumber_iff {x : ℚ} :
    IsNumber x ↔ ∃ units : ℕ, Fits units ∧ x = units * 2 ^ (-1074 : ℤ) := by
  constructor
  · rintro ⟨significand, exponent, hbits, hlow, hhigh, rfl⟩
    obtain ⟨spare, hspare⟩ := Int.eq_ofNat_of_zero_le (show 0 ≤ exponent + 1074 by omega)
    have hfits : significand * 2 ^ spare < overflow := by
      rw [overflow_eq, show 2098 = 53 + 2045 from rfl]
      exact shift_lt_two_pow hbits (by omega)
    refine ⟨significand * 2 ^ spare, fits_iff.mpr ⟨⟨significand, spare, hbits, rfl⟩, hfits⟩, ?_⟩
    rw [cast_shift_mul_zpow, ← hspare, add_neg_cancel_right]
  · rintro ⟨units, hfits, rfl⟩
    exact hfits.isNumber

/-- The parity of its significand can be told from a count of units. -/
theorem hasEvenSignificand_of_units {units : ℕ} (h : EvenUnits units) (hlt : units < overflow) :
    HasEvenSignificand (units * 2 ^ (-1074 : ℤ)) := by
  obtain ⟨significand, spare, hnormal, heven⟩ := h
  rw [overflow_eq, show 2098 = 52 + 2046 from rfl] at hlt
  have hspare : spare < 2046 := hnormal.spare_lt hlt (by decide)
  refine ⟨significand, spare + -1074, hnormal.lt, by omega, by omega, ?_, ?_, heven⟩
  · exact hnormal.leading.imp_right fun hzero => by omega
  · rw [hnormal.eq, cast_shift_mul_zpow]

/-! ## Rounding -/

variable {num den : ℕ}

/-- A quotient in units. -/
theorem cast_units_div (num den : ℕ) :
    ((num * unitsPerOne : ℕ) : ℚ) / den * 2 ^ (-1074 : ℤ) = num / den := by
  rw [Nat.cast_mul, mul_div_right_comm, mul_assoc, cast_unitsPerOne_mul, mul_one]

/-- The overflow, seen from the quotient. -/
theorem nearestUnits_lt_overflow_iff (hden : 0 < den) :
    nearestUnits num den < overflow ↔ (num : ℚ) / den < 2 ^ 1024 - 2 ^ 970 := by
  have hunit : (0 : ℚ) < 2 ^ (-1074 : ℤ) := zpow_pos two_pos _
  have hpower : ∀ n m : ℕ, (n : ℤ) + -1074 = m → (2 : ℚ) ^ n * 2 ^ (-1074 : ℤ) = 2 ^ m := by
    intro n m h
    rw [← zpow_natCast, ← zpow_natCast, ← zpow_add₀ two_ne_zero, h]
  have hclosest := (nearestUnits_isClosest num hden).lt_two_pow_iff 2044
  rw [overflow_eq, hclosest, ← mul_lt_mul_iff_left₀ hunit, cast_units_div, sub_mul,
    hpower 2098 1024 rfl, hpower 2044 970 rfl]

theorem nearest_of_lt {negative : Bool} (h : nearestUnits num den < overflow) :
    nearest negative num den = .finite negative (nearestUnits num den) :=
  if_pos h

theorem nearest_of_ge {negative : Bool} (h : overflow ≤ nearestUnits num den) :
    nearest negative num den = .infinite negative :=
  if_neg (Nat.not_lt.mpr h)

/-- A quotient is rounded correctly. -/
theorem isRounding_nearest (num : ℕ) (hden : 0 < den) :
    IsRounding (num / den) (nearest false num den) where
  finite hbelow := by
    have hlt := (nearestUnits_lt_overflow_iff hden).mpr hbelow
    have hclosest := nearestUnits_isClosest num hden
    have hunit : (0 : ℚ) < 2 ^ (-1074 : ℤ) := zpow_pos two_pos _
    have hdistance : ∀ units : ℕ, |(num : ℚ) / den - units * 2 ^ (-1074 : ℤ)| =
        |((num * unitsPerOne : ℕ) : ℚ) / den - units| * 2 ^ (-1074 : ℤ) := by
      intro units
      rw [← cast_units_div, ← sub_mul, abs_mul, abs_of_pos hunit]
    have hfits := fits_iff.mpr ⟨hclosest.significant, hlt⟩
    refine ⟨_, nearest_of_lt hlt, hfits.isNumber, ?_, ?_⟩
    · intro y hy
      obtain ⟨other, hother, rfl⟩ := isNumber_iff.mp hy
      rw [hdistance, hdistance]
      exact mul_le_mul_of_nonneg_right (hclosest.closest other (fits_iff.mp hother).1) hunit.le
    · intro y hy hne htie
      obtain ⟨other, hother, rfl⟩ := isNumber_iff.mp hy
      rw [hdistance, hdistance, mul_left_inj' hunit.ne'] at htie
      have hne' : other ≠ nearestUnits num den := by
        rintro rfl
        exact hne rfl
      exact hasEvenSignificand_of_units
        (hclosest.even_of_tie other (fits_iff.mp hother).1 hne' htie) hlt
  infinite habove := by
    refine nearest_of_ge (Nat.le_of_not_lt fun hlt => ?_)
    exact not_lt.mpr habove ((nearestUnits_lt_overflow_iff hden).mp hlt)

variable {num' den' : ℕ}

/-- A quotient is never rounded to the not-a-number. -/
theorem nearest_ne_nan (negative : Bool) (num den : ℕ) : nearest negative num den ≠ .nan := by
  cases Nat.lt_or_ge (nearestUnits num den) overflow with
  | inl hlt =>
    rw [nearest_of_lt hlt]
    exact fun h => by cases h
  | inr hge =>
    rw [nearest_of_ge hge]
    exact fun h => by cases h

/-- A larger quotient has no smaller count closest to it. -/
theorem nearestUnits_mono (hden : 0 < den) (hden' : 0 < den')
    (hle : (num : ℚ) / den ≤ num' / den') : nearestUnits num den ≤ nearestUnits num' den' := by
  have hunit : (0 : ℚ) < 2 ^ (-1074 : ℤ) := zpow_pos two_pos _
  refine (nearestUnits_isClosest num hden).mono (nearestUnits_isClosest num' hden') ?_
  rw [← mul_le_mul_iff_left₀ hunit, cast_units_div, cast_units_div]
  exact hle

/-- Rounding keeps the order. -/
theorem nearest_atMost_nearest (hden : 0 < den) (hden' : 0 < den')
    (hle : (num : ℚ) / den ≤ num' / den') :
    AtMost (nearest false num den) (nearest false num' den') := by
  have hunits := nearestUnits_mono hden hden' hle
  cases Nat.lt_or_ge (nearestUnits num' den') overflow with
  | inl hlt' =>
    rw [nearest_of_lt hlt', nearest_of_lt (hunits.trans_lt hlt')]
    exact .finite (Int.ofNat_le.mpr hunits)
  | inr hge' =>
    rw [nearest_of_ge hge']
    exact .below_greatest (nearest_ne_nan false num den)

/-- A number is rounded to the same, however it is written as a quotient. -/
theorem nearest_congr (hden : 0 < den) (hden' : 0 < den') (heq : (num : ℚ) / den = num' / den') :
    nearest false num den = nearest false num' den' := by
  have hunits : nearestUnits num den = nearestUnits num' den' :=
    Nat.le_antisymm (nearestUnits_mono hden hden' heq.le) (nearestUnits_mono hden' hden heq.ge)
  cases Nat.lt_or_ge (nearestUnits num den) overflow with
  | inl hlt => rw [nearest_of_lt hlt, hunits, nearest_of_lt (hunits ▸ hlt)]
  | inr hge => rw [nearest_of_ge hge, nearest_of_ge (hunits ▸ hge)]

end Binary64
end LessonLexer
