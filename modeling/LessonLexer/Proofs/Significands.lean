import LessonLexer.Binary64.Basic
import Mathlib.Algebra.Group.Nat.Even
import Mathlib.Algebra.Order.Field.Rat
import Mathlib.Data.Nat.Cast.Order.Field
import Mathlib.Tactic.FieldSimp
import Mathlib.Tactic.Linarith
import Mathlib.Tactic.Positivity
import Mathlib.Tactic.Ring

/-!
# Rounding to 53 significant bits

`Binary64.nearestUnits` finds the leading 53 bits of a quotient and rounds the others away.  Here it
is shown that this gives the count of units that is closest to the quotient, among all counts with
at most 53 significant bits and whatever their size, and that a tie goes to an even significand
(`nearestUnits_isClosest`).

## The argument

If a count of the format reaches `2 ^ 52` steps of `2 ^ spare`, it is a whole number of these steps
(`Significant.le_or_le`).  The quotient lies between `significand` and `significand + 1` steps,
where the significand has 53 bits (`spareBits_spec`), so nothing in the format lies between its two
neighbours (`Neighbours`), and the closer one of them is the closest of all.  Of the two neighbours
one has an even number of steps.  That this is also the parity of its significand is clear unless
the number of steps is `2 ^ 53`, and then the significand is `2 ^ 52`, which is even as well
(`exists_normal`).
-/

namespace LessonLexer
namespace Binary64

/-! ## Significands -/

/-- A count of units has at most 53 significant bits. -/
def Significant (units : ℕ) : Prop :=
  ∃ significand spare : ℕ, significand < 2 ^ 53 ∧ units = significand * 2 ^ spare

/-- The one way to write a count of units: the significand has its leading bit set, unless there
are no bits to spare. -/
structure Normal (units significand spare : ℕ) : Prop where
  lt : significand < 2 ^ 53
  leading : 2 ^ 52 ≤ significand ∨ spare = 0
  eq : units = significand * 2 ^ spare

/-- The significand of a count of units is even. -/
def EvenUnits (units : ℕ) : Prop :=
  ∃ significand spare : ℕ, Normal units significand spare ∧ Even significand

theorem Normal.significant {units significand spare : ℕ} (h : Normal units significand spare) :
    Significant units :=
  ⟨significand, spare, h.lt, h.eq⟩

/-- A longer shift would have pushed the leading bit out. -/
theorem Normal.spare_le {units m s n t : ℕ} (h : Normal units m s) (h' : Normal units n t) :
    s ≤ t := by
  by_contra hlt
  obtain ⟨d, rfl⟩ := Nat.exists_eq_add_of_lt (Nat.lt_of_not_le hlt)
  have hm : 2 ^ 52 ≤ m := h.leading.resolve_right (Nat.succ_ne_zero _)
  have hpow : 2 ^ (t + d + 1) = 2 * 2 ^ d * 2 ^ t := by ring
  have heq : n * 2 ^ t = m * (2 * 2 ^ d) * 2 ^ t := by
    rw [← h'.eq, h.eq, hpow, Nat.mul_assoc m]
  have hn : n = m * (2 * 2 ^ d) := Nat.eq_of_mul_eq_mul_right (Nat.two_pow_pos t) heq
  have hd : 1 ≤ 2 ^ d := Nat.two_pow_pos d
  have hbig : m * 2 ≤ n := by
    rw [hn]
    exact Nat.mul_le_mul_left m (Nat.le_mul_of_pos_right 2 hd)
  have hsmall := h'.lt
  omega

/-- The significand is determined by the count of units. -/
theorem Normal.significand_eq {units m s n t : ℕ} (h : Normal units m s) (h' : Normal units n t) :
    m = n := by
  obtain rfl : s = t := Nat.le_antisymm (h.spare_le h') (h'.spare_le h)
  exact Nat.eq_of_mul_eq_mul_right (Nat.two_pow_pos s) (h.eq.symm.trans h'.eq)

/-- A count below a power of two is shifted by few bits. -/
theorem Normal.spare_lt {units significand spare n : ℕ} (h : Normal units significand spare)
    (hlt : units < 2 ^ (52 + n)) (hn : 0 < n) : spare < n := by
  by_contra hnot
  have hge : n ≤ spare := Nat.le_of_not_lt hnot
  have hleading : 2 ^ 52 ≤ significand := h.leading.resolve_right (by omega)
  rw [h.eq, pow_add] at hlt
  exact Nat.not_le.mpr hlt (Nat.mul_le_mul hleading (Nat.pow_le_pow_right two_pos hge))

/-- A number of steps that does not exceed `2 ^ 53` can be written with a significand of the same
parity or, where this says more, an even one. -/
theorem exists_normal {steps spare : ℕ} (hle : steps ≤ 2 ^ 53)
    (hleading : 2 ^ 52 ≤ steps ∨ spare = 0) : ∃ significand spare',
      Normal (steps * 2 ^ spare) significand spare' ∧ (Even steps → Even significand) := by
  rcases Nat.lt_or_eq_of_le hle with hlt | rfl
  · exact ⟨steps, spare, ⟨hlt, hleading, rfl⟩, id⟩
  · have hcarry : 2 ^ 53 * 2 ^ spare = 2 ^ 52 * 2 ^ (spare + 1) := by ring
    exact ⟨2 ^ 52, spare + 1, ⟨by norm_num, Or.inl le_rfl, hcarry⟩, fun _ => by decide⟩

/-- Between a number of steps and the next one nothing has 53 significant bits. -/
theorem Significant.le_or_le {units : ℕ} (h : Significant units) {steps spare : ℕ}
    (hleading : 2 ^ 52 ≤ steps ∨ spare = 0) :
    units ≤ steps * 2 ^ spare ∨ (steps + 1) * 2 ^ spare ≤ units := by
  obtain ⟨significand, shift, hlt, rfl⟩ := h
  rcases Nat.lt_or_ge shift spare with hshift | hshift
  · -- a finer grid: all of it that has 53 bits lies below
    obtain ⟨d, rfl⟩ := Nat.exists_eq_add_of_lt hshift
    have hsteps : 2 ^ 52 ≤ steps := hleading.resolve_right (Nat.succ_ne_zero _)
    have hpow : 2 ^ 53 * 2 ^ shift ≤ 2 ^ 52 * 2 ^ (shift + d + 1) := by
      have hd : 1 ≤ 2 ^ d := Nat.two_pow_pos d
      calc 2 ^ 53 * 2 ^ shift ≤ 2 ^ 53 * 2 ^ shift * 2 ^ d := Nat.le_mul_of_pos_right _ hd
        _ = 2 ^ 52 * 2 ^ (shift + d + 1) := by ring
    exact Or.inl (calc significand * 2 ^ shift ≤ 2 ^ 53 * 2 ^ shift :=
          Nat.mul_le_mul_right _ hlt.le
      _ ≤ 2 ^ 52 * 2 ^ (shift + d + 1) := hpow
      _ ≤ steps * 2 ^ (shift + d + 1) := Nat.mul_le_mul_right _ hsteps)
  · -- a coarser grid: a whole number of steps
    obtain ⟨d, rfl⟩ := Nat.exists_eq_add_of_le hshift
    have hsplit : significand * 2 ^ (spare + d) = significand * 2 ^ d * 2 ^ spare := by ring
    rw [hsplit]
    rcases Nat.lt_or_ge steps (significand * 2 ^ d) with habove | hbelow
    · exact Or.inr (Nat.mul_le_mul_right _ habove)
    · exact Or.inl (Nat.mul_le_mul_right _ hbelow)

/-- Two different counts with even significands have another one between them. -/
theorem exists_between {low high : ℕ} (hlow : EvenUnits low) (hhigh : EvenUnits high)
    (hlt : low < high) : ∃ units, Significant units ∧ low < units ∧ units < high := by
  obtain ⟨m, s, hnormal, heven⟩ := hlow
  have hm : m + 1 < 2 ^ 53 := by
    obtain ⟨half, rfl⟩ := heven
    have hfits := hnormal.lt
    omega
  have hnext : Normal ((m + 1) * 2 ^ s) (m + 1) s :=
    ⟨hm, hnormal.leading.imp_left fun h => Nat.le_succ_of_le h, rfl⟩
  have hstep : low < (m + 1) * 2 ^ s := by
    rw [hnormal.eq]
    exact Nat.mul_lt_mul_of_pos_right (Nat.lt_succ_self m) (Nat.two_pow_pos s)
  obtain ⟨n, t, hnormal', heven'⟩ := hhigh
  have hle : (m + 1) * 2 ^ s ≤ high := by
    refine (hnormal'.significant.le_or_le hnormal.leading).resolve_left fun hbelow => ?_
    exact Nat.not_le.mpr hlt (hnormal.eq ▸ hbelow)
  refine ⟨_, hnext.significant, hstep, lt_of_le_of_ne hle ?_⟩
  -- the next significand after an even one is odd
  rintro rfl
  rw [← hnext.significand_eq hnormal'] at heven'
  exact absurd heven' (by simpa [Nat.even_add_one] using heven)

/-! ## Neighbours -/

/-- A number lies between two others, and a third one is the closer of these. -/
structure Neighbours (exact low high closer : ℚ) : Prop where
  low_le : low ≤ exact
  lt_high : exact < high
  closer_eq : closer = low ∧ exact - low ≤ high - exact ∨ closer = high ∧ high - exact ≤ exact - low

namespace Neighbours

variable {exact low high closer other : ℚ}

/-- What does not lie between the neighbours is not closer. -/
theorem abs_le (h : Neighbours exact low high closer) (hother : other ≤ low ∨ high ≤ other) :
    |exact - closer| ≤ |exact - other| := by
  obtain ⟨hlow, hhigh, ⟨rfl, hcloser⟩ | ⟨rfl, hcloser⟩⟩ := h
  · rw [abs_of_nonneg (sub_nonneg.mpr hlow)]
    rcases hother with hbelow | habove
    · exact le_trans (by linarith) (le_abs_self _)
    · exact le_trans (by linarith) (neg_le_abs _)
  · rw [abs_of_neg (sub_neg.mpr hhigh)]
    rcases hother with hbelow | habove
    · exact le_trans (by linarith) (le_abs_self _)
    · exact le_trans (by linarith) (neg_le_abs _)

/-- Something else outside is as close only if both neighbours are. -/
theorem eq_of_tie (h : Neighbours exact low high closer) (hother : other ≤ low ∨ high ≤ other)
    (hne : other ≠ closer) (htie : |exact - other| = |exact - closer|) :
    exact - low = high - exact := by
  obtain ⟨hlow, hhigh, ⟨rfl, hcloser⟩ | ⟨rfl, hcloser⟩⟩ := h
  · rw [abs_of_nonneg (sub_nonneg.mpr hlow)] at htie
    rcases hother with hbelow | habove
    · rw [abs_of_nonneg (by linarith)] at htie
      exact absurd (by linarith) hne
    · rw [abs_of_neg (by linarith)] at htie
      linarith
  · rw [abs_of_neg (sub_neg.mpr hhigh)] at htie
    rcases hother with hbelow | habove
    · rw [abs_of_nonneg (by linarith)] at htie
      linarith
    · rw [abs_of_neg (by linarith)] at htie
      exact absurd (by linarith) hne

/-- Neighbours are neighbours in any unit of measure. -/
theorem scale (h : Neighbours exact low high closer) {factor : ℚ} (hfactor : 0 < factor) :
    Neighbours (exact * factor) (low * factor) (high * factor) (closer * factor) where
  low_le := mul_le_mul_of_nonneg_right h.low_le hfactor.le
  lt_high := mul_lt_mul_of_pos_right h.lt_high hfactor
  closer_eq := by
    rcases h.closer_eq with ⟨rfl, hcloser⟩ | ⟨rfl, hcloser⟩
    · refine Or.inl ⟨rfl, ?_⟩
      rw [← sub_mul, ← sub_mul]
      exact mul_le_mul_of_nonneg_right hcloser hfactor.le
    · refine Or.inr ⟨rfl, ?_⟩
      rw [← sub_mul, ← sub_mul]
      exact mul_le_mul_of_nonneg_right hcloser hfactor.le

end Neighbours

/-! ## Rounding a quotient to a whole number -/

variable {num den : ℕ}

/-- A quotient is its whole part and the remainder. -/
theorem cast_div_eq (num : ℕ) (hden : 0 < den) :
    (num : ℚ) / den = (num / den : ℕ) + (num % den : ℕ) / (den : ℚ) := by
  have hne : (den : ℚ) ≠ 0 := Nat.cast_ne_zero.mpr hden.ne'
  have hsplit : (num : ℚ) = den * (num / den : ℕ) + (num % den : ℕ) := by
    exact_mod_cast (Nat.div_add_mod num den).symm
  rw [eq_comm, ← mul_right_inj' hne, mul_add, mul_div_cancel₀ _ hne, mul_div_cancel₀ _ hne]
  exact hsplit.symm

/-- The remainder is at most half of the divisor where the whole part is not farther. -/
theorem two_mul_mod_le_iff (hden : 0 < den) : 2 * (num % den) ≤ den ↔
    (num : ℚ) / den - (num / den : ℕ) ≤ (num / den + 1 : ℕ) - (num : ℚ) / den := by
  have hpos : (0 : ℚ) < den := Nat.cast_pos.mpr hden
  have hsplit := cast_div_eq num hden
  have hcast : 2 * (num % den) ≤ den ↔ 2 * ((num % den : ℕ) : ℚ) ≤ den := by norm_cast
  rw [hcast, ← div_le_one hpos, mul_div_assoc, Nat.cast_succ]
  constructor <;> intro h <;> linarith

/-- And at least half of it where the next whole number is not farther. -/
theorem le_two_mul_mod_iff (hden : 0 < den) : den ≤ 2 * (num % den) ↔
    (num / den + 1 : ℕ) - (num : ℚ) / den ≤ (num : ℚ) / den - (num / den : ℕ) := by
  have hpos : (0 : ℚ) < den := Nat.cast_pos.mpr hden
  have hsplit := cast_div_eq num hden
  have hcast : den ≤ 2 * (num % den) ↔ (den : ℚ) ≤ 2 * ((num % den : ℕ) : ℚ) := by norm_cast
  rw [hcast, ← one_le_div hpos, mul_div_assoc, Nat.cast_succ]
  constructor <;> intro h <;> linarith

/-- Rounding goes to the whole part or to the next whole number, whichever is closer. -/
theorem roundDiv_cases (num den : ℕ) :
    roundDiv num den = num / den ∧ 2 * (num % den) ≤ den ∨
      roundDiv num den = num / den + 1 ∧ den ≤ 2 * (num % den) := by
  unfold roundDiv
  dsimp only
  rcases Nat.mod_two_eq_zero_or_one (num / den) with hparity | hparity <;> split <;> try split
  all_goals omega

/-- If both are equally close, it goes to the even one. -/
theorem even_roundDiv (htie : 2 * (num % den) = den) : Even (roundDiv num den) := by
  have hround : roundDiv num den = num / den + num / den % 2 := by
    unfold roundDiv
    dsimp only
    rw [if_neg htie.not_lt, if_neg htie.not_gt]
  rw [hround, Nat.even_iff]
  omega

/-- The rounded quotient is the closer one of the two whole numbers around the quotient. -/
theorem roundDiv_neighbours (num : ℕ) (hden : 0 < den) :
    Neighbours ((num : ℚ) / den) (num / den : ℕ) (num / den + 1 : ℕ) (roundDiv num den) where
  low_le := Nat.cast_div_le
  lt_high := by
    have hpos : (0 : ℚ) < den := Nat.cast_pos.mpr hden
    have hrest : ((num % den : ℕ) : ℚ) / den < 1 :=
      (div_lt_one hpos).mpr (Nat.cast_lt.mpr (Nat.mod_lt num hden))
    rw [cast_div_eq num hden, Nat.cast_succ]
    linarith
  closer_eq := by
    rcases roundDiv_cases num den with ⟨hround, hrest⟩ | ⟨hround, hrest⟩
    · exact Or.inl ⟨congrArg _ hround, (two_mul_mod_le_iff hden).mp hrest⟩
    · exact Or.inr ⟨congrArg _ hround, (le_two_mul_mod_iff hden).mp hrest⟩

/-! ## Rounding a quotient to 53 bits -/

/-- Without the spare bits a count has 53 bits, or fewer if there are none to spare. -/
theorem spareBits_spec (count : ℕ) : count / 2 ^ spareBits count < 2 ^ 53 ∧
    (2 ^ 52 ≤ count / 2 ^ spareBits count ∨ spareBits count = 0) := by
  have hbelow : count < 2 ^ (count.log2 + 1) := Nat.lt_log2_self
  rcases Nat.lt_or_ge count.log2 53 with hshort | hlong
  · have hspare : spareBits count = 0 := by
      unfold spareBits
      omega
    rw [hspare, pow_zero, Nat.div_one]
    exact ⟨hbelow.trans_le (Nat.pow_le_pow_right (by decide) hshort), Or.inr rfl⟩
  · obtain ⟨extra, hextra⟩ := Nat.exists_eq_add_of_le hlong
    have hspare : spareBits count = extra + 1 := by
      unfold spareBits
      omega
    have hne : count ≠ 0 := by
      rintro rfl
      rw [Nat.log2_zero] at hlong
      omega
    have habove : 2 ^ count.log2 ≤ count := Nat.log2_self_le hne
    rw [hextra] at hbelow habove
    rw [hspare, Nat.div_lt_iff_lt_mul (Nat.two_pow_pos _),
      Nat.le_div_iff_mul_le (Nat.two_pow_pos _), ← pow_add, ← pow_add]
    refine ⟨?_, Or.inl ?_⟩
    · rwa [Nat.add_assoc] at hbelow
    · rwa [Nat.add_comm extra 1, ← Nat.add_assoc]

/-- A count with 53 significant bits is closest to an exact number of units, and if another one is
as close its significand is even. -/
structure IsClosest (exact : ℚ) (units : ℕ) : Prop where
  significant : Significant units
  closest : ∀ other : ℕ, Significant other → |exact - units| ≤ |exact - other|
  even_of_tie : ∀ other : ℕ, Significant other → other ≠ units →
    |exact - other| = |exact - units| → EvenUnits units

/-- Rounding to a whole number of steps gives the closest count, if the steps are so fine that only
a significand can count them. -/
theorem isClosest_of_neighbours {exact : ℚ} {steps spare rounded : ℕ} (hlt : steps < 2 ^ 53)
    (hleading : 2 ^ 52 ≤ steps ∨ spare = 0)
    (h : Neighbours (exact / 2 ^ spare) steps (steps + 1 : ℕ) rounded)
    (htie : exact / 2 ^ spare - steps = (steps + 1 : ℕ) - exact / 2 ^ spare → Even rounded) :
    IsClosest exact (rounded * 2 ^ spare) := by
  have hstep : (0 : ℚ) < 2 ^ spare := by positivity
  have hrounded : rounded = steps ∨ rounded = steps + 1 :=
    h.closer_eq.imp (fun hlow => Nat.cast_injective hlow.1) fun hhigh => Nat.cast_injective hhigh.1
  obtain ⟨significand, spare', hnormal, heven⟩ :=
    @exists_normal rounded spare (by omega) (hleading.imp_left (by omega))
  have hscaled := h.scale hstep
  rw [div_mul_cancel₀ exact hstep.ne'] at hscaled
  have houtside : ∀ other : ℕ, Significant other →
      (other : ℚ) ≤ steps * 2 ^ spare ∨ (steps + 1 : ℕ) * 2 ^ spare ≤ (other : ℚ) := by
    intro other hother
    exact_mod_cast hother.le_or_le hleading
  have hcast : ((rounded * 2 ^ spare : ℕ) : ℚ) = rounded * 2 ^ spare := by push_cast; rfl
  refine ⟨hnormal.significant, fun other hother => ?_, fun other hother hne hclose => ?_⟩
  · rw [hcast]
    exact hscaled.abs_le (houtside other hother)
  · have hne' : (other : ℚ) ≠ rounded * 2 ^ spare := by
      rw [← hcast]
      exact Nat.cast_injective.ne hne
    rw [hcast] at hclose
    have hequal := hscaled.eq_of_tie (houtside other hother) hne' hclose
    refine ⟨significand, spare', hnormal, heven (htie ?_)⟩
    rw [← mul_left_inj' hstep.ne', sub_mul, sub_mul, div_mul_cancel₀ exact hstep.ne']
    exact hequal

/-- **Rounding to 53 bits.**  The count that is found for a quotient is the closest one. -/
theorem nearestUnits_isClosest (num : ℕ) (hden : 0 < den) :
    IsClosest ((num * unitsPerOne : ℕ) / den) (nearestUnits num den) := by
  unfold nearestUnits
  dsimp only
  generalize num * unitsPerOne = scaled
  have hspare := spareBits_spec (scaled / den)
  generalize spareBits (scaled / den) = spare at hspare ⊢
  rw [Nat.div_div_eq_div_mul] at hspare
  have hstep : 0 < den * 2 ^ spare := Nat.mul_pos hden (Nat.two_pow_pos spare)
  have hquotient : (scaled : ℚ) / den / 2 ^ spare = scaled / (den * 2 ^ spare : ℕ) := by
    push_cast
    rw [div_div]
  rw [Nat.pow_eq]
  refine isClosest_of_neighbours hspare.1 hspare.2 ?_ fun htie => even_roundDiv ?_
  · rw [hquotient]
    exact roundDiv_neighbours scaled hstep
  · rw [hquotient] at htie
    exact Nat.le_antisymm ((two_mul_mod_le_iff hstep).mpr htie.le)
      ((le_two_mul_mod_iff hstep).mpr htie.ge)

/-! ## The order -/

namespace IsClosest

variable {exact exact' : ℚ} {units units' : ℕ}

/-- A count that is closest to a number lies no farther above it than any lower count below. -/
theorem add_le_two_mul (h : IsClosest exact units) {other : ℕ} (hother : Significant other)
    (hlt : other < units) : (other : ℚ) + units ≤ 2 * exact := by
  have hclosest := h.closest other hother
  have hcast : (other : ℚ) < units := Nat.cast_lt.mpr hlt
  rcases le_total exact other with hbelow | habove
  · rw [abs_of_nonpos (by linarith), abs_of_nonpos (by linarith)] at hclosest
    linarith
  · rw [abs_of_nonneg (sub_nonneg.mpr habove)] at hclosest
    linarith [neg_le_abs (exact - units)]

/-- And no farther below it than any higher count above. -/
theorem two_mul_le_add (h : IsClosest exact units) {other : ℕ} (hother : Significant other)
    (hlt : units < other) : 2 * exact ≤ (units : ℚ) + other := by
  have hclosest := h.closest other hother
  have hcast : (units : ℚ) < other := Nat.cast_lt.mpr hlt
  rcases le_total exact other with hbelow | habove
  · rw [abs_of_nonpos (sub_nonpos.mpr hbelow)] at hclosest
    linarith [le_abs_self (exact - units)]
  · rw [abs_of_nonneg (by linarith), abs_of_nonneg (sub_nonneg.mpr habove)] at hclosest
    linarith

/-- A larger number has no smaller count closest to it. -/
theorem mono (h : IsClosest exact units) (h' : IsClosest exact' units') (hle : exact ≤ exact') :
    units ≤ units' := by
  by_contra hnot
  have hlt : units' < units := Nat.lt_of_not_le hnot
  have hcast : (units' : ℚ) < units := Nat.cast_lt.mpr hlt
  have habove := h.add_le_two_mul h'.significant hlt
  have hbelow := h'.two_mul_le_add h.significant hlt
  obtain rfl : exact = exact' := by linarith
  -- both are halfway, so both counts have even significands, and something lies between them
  have hmiddle : (units' : ℚ) + units = 2 * exact := by linarith
  have htie : |exact - units'| = |exact - units| := by
    rw [abs_of_nonneg (by linarith), abs_of_nonpos (by linarith)]
    linarith
  obtain ⟨other, hother, hlow, hhigh⟩ := exists_between
    (h'.even_of_tie units h.significant hlt.ne' htie.symm)
    (h.even_of_tie units' h'.significant hlt.ne htie) hlt
  have hlow' : (units' : ℚ) < other := Nat.cast_lt.mpr hlow
  have hhigh' : (other : ℚ) < units := Nat.cast_lt.mpr hhigh
  have hcloser : |exact - other| < |exact - units| := by
    rw [abs_of_nonpos (show exact - units ≤ 0 by linarith), abs_lt]
    constructor <;> linarith
  exact absurd (h.closest other hother) (not_le.mpr hcloser)

/-- The closest count stays below a power of two exactly if the number stays below the middle
between the power and the last count before it.  In the middle there is a tie, and the last count
has an odd significand. -/
theorem lt_two_pow_iff (h : IsClosest exact units) (n : ℕ) :
    units < 2 ^ (n + 54) ↔ exact < 2 ^ (n + 54) - 2 ^ n := by
  have hlast : Normal ((2 ^ 53 - 1) * 2 ^ (n + 1)) (2 ^ 53 - 1) (n + 1) :=
    ⟨by norm_num, Or.inl (by norm_num), rfl⟩
  have hpower : Significant (2 ^ (n + 54)) := ⟨1, n + 54, by norm_num, (Nat.one_mul _).symm⟩
  have hnext : (2 ^ 53 - 1 + 1) * 2 ^ (n + 1) = 2 ^ (n + 54) := by
    rw [Nat.sub_add_cancel (by norm_num), ← pow_add]
    congr 1
    omega
  have hlast_lt : (2 ^ 53 - 1) * 2 ^ (n + 1) < 2 ^ (n + 54) := by
    rw [← hnext]
    exact Nat.mul_lt_mul_of_pos_right (Nat.lt_succ_self _) (Nat.two_pow_pos _)
  have hmiddle : (2 : ℚ) * (2 ^ (n + 54) - 2 ^ n) =
      ((2 ^ 53 - 1) * 2 ^ (n + 1) : ℕ) + (2 ^ (n + 54) : ℕ) := by
    push_cast
    ring
  constructor
  · intro hlt
    by_contra hnot
    rw [not_lt] at hnot
    have hle : units ≤ (2 ^ 53 - 1) * 2 ^ (n + 1) := by
      refine (h.significant.le_or_le hlast.leading).resolve_right fun hge => ?_
      rw [hnext] at hge
      exact Nat.not_le.mpr hlt hge
    have hbelow := h.two_mul_le_add hpower hlt
    have hcast : (units : ℚ) ≤ ((2 ^ 53 - 1) * 2 ^ (n + 1) : ℕ) := Nat.cast_le.mpr hle
    have hcast' : (units : ℚ) < (2 ^ (n + 54) : ℕ) := Nat.cast_lt.mpr hlt
    obtain rfl : units = (2 ^ 53 - 1) * 2 ^ (n + 1) :=
      Nat.cast_injective (le_antisymm hcast (by linarith))
    have htie : |exact - (2 ^ (n + 54) : ℕ)| = |exact - ((2 ^ 53 - 1) * 2 ^ (n + 1) : ℕ)| := by
      rw [abs_of_nonpos (by linarith), abs_of_nonneg (by linarith)]
      linarith
    obtain ⟨significand, spare, hnormal, heven⟩ := h.even_of_tie _ hpower hlt.ne' htie
    rw [← hlast.significand_eq hnormal] at heven
    exact absurd heven (by decide)
  · intro hlt
    by_contra hnot
    have hge : 2 ^ (n + 54) ≤ units := Nat.not_lt.mp hnot
    have habove := h.add_le_two_mul hlast.significant (hlast_lt.trans_le hge)
    have hcast : ((2 ^ (n + 54) : ℕ) : ℚ) ≤ units := Nat.cast_le.mpr hge
    linarith

end IsClosest

end Binary64
end LessonLexer
