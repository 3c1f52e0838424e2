import HeaderRelay.Target
import Mathlib.Algebra.Ring.Nat
import Mathlib.Data.BitVec
import Mathlib.Tactic.Common

/-!
# Target arithmetic in numbers

Targets and difficulties are 256-bit words.  Here the operations on them are
restated for natural numbers, where nothing overflows.
-/

namespace HeaderRelay.Target

theorem toNat_difficulty (target reference : Target) :
    (target.difficulty reference).toNat =
      if target = 0 then 2 ^ 256 - 1 else reference.toNat / target.toNat := by
  unfold difficulty
  split
  · exact BitVec.toNat_allOnes
  · exact BitVec.toNat_udiv

theorem toNat_pos_iff {target : Target} : 0 < target.toNat ↔ target ≠ 0 := by
  rw [Nat.pos_iff_ne_zero, ne_eq, ne_eq, ← BitVec.toNat_inj]
  rfl

/-- Only the targets above the reference are too easy to have a difficulty. -/
theorem difficulty_eq_zero_iff {target reference : Target} :
    target.difficulty reference = 0 ↔ reference.toNat < target.toNat := by
  rw [← not_iff_not, ← ne_eq, ← toNat_pos_iff, toNat_difficulty, Nat.not_lt]
  split
  next zero => simp [zero]
  next nonzero =>
    rw [Nat.div_pos_iff]
    simp [toNat_pos_iff.mpr nonzero]

theorem toNat_and_three (target : Target) : (target &&& 3).toNat = target.toNat % 4 := by
  rw [BitVec.toNat_and]
  exact Nat.and_two_pow_sub_one_eq_mod target.toNat 2

/-- The comparison of quarters is the one of the targets themselves. -/
theorem mayBecome_iff {old new : Target} :
    old.mayBecome new = true ↔
      old ≠ 0 ∧ new ≠ 0 ∧ old.toNat / 4 ≤ new.toNat ∧ new.toNat ≤ 4 * old.toNat := by
  by_cases zero : old = 0 ∨ new = 0
  · simp only [mayBecome]
    rcases zero with rfl | rfl <;> simp
  · obtain ⟨oldNonzero, newNonzero⟩ := not_or.mp zero
    have quarter_lt : new >>> 2 < old ↔ new.toNat / 4 < old.toNat := by
      simp [BitVec.lt_def, Nat.shiftRight_eq_div_pow]
    have quarter_eq : new >>> 2 = old ↔ new.toNat / 4 = old.toNat := by
      simp [← BitVec.toNat_inj, Nat.shiftRight_eq_div_pow]
    have lower : old >>> 2 ≤ new ↔ old.toNat / 4 ≤ new.toNat := by
      simp [BitVec.le_def, Nat.shiftRight_eq_div_pow]
    have remainder : new &&& 3 = 0 ↔ new.toNat % 4 = 0 := by
      rw [← BitVec.toNat_inj, toNat_and_three]
      simp
    simp only [mayBecome, oldNonzero, newNonzero, decide_false, Bool.or_self,
      Bool.false_eq_true, if_false, Bool.and_eq_true, Bool.or_eq_true, decide_eq_true_eq,
      quarter_lt, quarter_eq, lower, remainder, ne_eq, not_false_eq_true, true_and]
    omega

/-! ## Compact targets -/

/-- The number that a compact form stands for, rounded down, however large it is. -/
def compactNumber (size mantissa : Nat) : Nat :=
  mantissa * 256 ^ size / 256 ^ 3

theorem compactNumber_of_short {size mantissa : Nat} (short : size ≤ 3) :
    compactNumber size mantissa = mantissa / 256 ^ (3 - size) := by
  have split : 256 ^ 3 = 256 ^ (3 - size) * 256 ^ size := by
    rw [← Nat.pow_add, Nat.sub_add_cancel short]
  rw [compactNumber, split]
  exact Nat.mul_div_mul_right _ _ (Nat.pow_pos (by decide))

theorem compactNumber_of_long {size mantissa : Nat} (long : 3 ≤ size) :
    compactNumber size mantissa = mantissa * 256 ^ (size - 3) := by
  have split : 256 ^ size = 256 ^ (size - 3) * 256 ^ 3 := by
    rw [← Nat.pow_add, Nat.sub_add_cancel long]
  rw [compactNumber, split, ← Nat.mul_assoc]
  exact Nat.mul_div_cancel _ (by decide)

theorem compactSize_eq (bits : UInt32) : compactSize bits = bits.toNat / 2 ^ 24 :=
  Nat.shiftRight_eq_div_pow _ _

theorem compactMantissa_eq (bits : UInt32) : compactMantissa bits = bits.toNat % 2 ^ 24 :=
  Nat.and_two_pow_sub_one_eq_mod _ 24

/-- The three ranges of size and mantissa are those of the numbers that need more than
256 bits. -/
theorem compactOverflows_iff {size mantissa : Nat} (isWord : mantissa < 2 ^ 24) :
    compactOverflows size mantissa = true ↔ 2 ^ 256 ≤ compactNumber size mantissa := by
  have ranges : compactOverflows size mantissa = true ↔
      mantissa ≠ 0 ∧ (34 < size ∨ (0xFF < mantissa ∧ 33 < size) ∨
        (0xFFFF < mantissa ∧ 32 < size)) := by
    simp [compactOverflows, or_assoc]
  rw [ranges]
  rcases Nat.lt_or_ge 34 size with longest | bounded
  · -- A mantissa other than zero has at least one bit, and that is shifted too far.
    rw [compactNumber_of_long (by omega)]
    have place : 256 ^ 32 ≤ 256 ^ (size - 3) :=
      Nat.pow_le_pow_right (by decide) (by omega)
    constructor
    · rintro ⟨nonzero, _⟩
      calc 2 ^ 256 = 1 * 256 ^ 32 := by decide
        _ ≤ mantissa * 256 ^ (size - 3) := Nat.mul_le_mul (Nat.pos_of_ne_zero nonzero) place
    · intro overflows
      refine ⟨?_, .inl longest⟩
      rintro rfl
      rw [Nat.zero_mul] at overflows
      exact absurd overflows (by decide)
  · rcases Nat.lt_or_ge 32 size with long | short
    · obtain rfl | rfl : size = 33 ∨ size = 34 := by omega
      · rw [compactNumber_of_long (by decide)]
        omega
      · rw [compactNumber_of_long (by decide)]
        omega
    · have fits : compactNumber size mantissa < 2 ^ 256 := by
        calc compactNumber size mantissa ≤ mantissa * 256 ^ 32 / 256 ^ 3 :=
              Nat.div_le_div_right (Nat.mul_le_mul_left _ (Nat.pow_le_pow_right (by decide) short))
          _ < 2 ^ 256 := by omega
      constructor
      · omega
      · intro overflows
        exact absurd overflows (Nat.not_le.mpr fits)

/-- A compact form that is neither negative nor oversized stands for its number: no shift
loses more than the rounding does. -/
theorem toNat_ofBits (bits : UInt32) :
    (ofBits bits).toNat =
      if compactMantissa bits < 2 ^ 23 ∧
          compactNumber (compactSize bits) (compactMantissa bits) < 2 ^ 256 then
        compactNumber (compactSize bits) (compactMantissa bits)
      else 0 := by
  have isWord : compactMantissa bits < 2 ^ 24 := by
    rw [compactMantissa_eq]
    exact Nat.mod_lt _ (by decide)
  unfold ofBits
  dsimp only
  generalize compactSize bits = size at *
  generalize compactMantissa bits = mantissa at *
  have overflows_iff : compactOverflows size mantissa = true ↔
      2 ^ 256 ≤ compactNumber size mantissa := compactOverflows_iff isWord
  split
  next negative =>
    rw [if_neg (by omega)]
    rfl
  next signless =>
    split
    next oversized =>
      have := overflows_iff.mp oversized
      rw [if_neg (by omega)]
      rfl
    next fits =>
      have inRange := Nat.not_le.mp (mt overflows_iff.mpr fits)
      have isNumber : mantissa < 2 ^ 23 ∧ compactNumber size mantissa < 2 ^ 256 :=
        ⟨by omega, inRange⟩
      rw [if_pos isNumber]
      split
      next short =>
        rw [compactNumber_of_short short] at inRange ⊢
        rw [Nat.shiftRight_eq_div_pow, Nat.pow_mul]
        exact (BitVec.toNat_ofNat _ _).trans (Nat.mod_eq_of_lt inRange)
      next long =>
        rw [compactNumber_of_long (by omega)] at inRange ⊢
        have mantissaInRange : (BitVec.ofNat 256 mantissa).toNat = mantissa :=
          (BitVec.toNat_ofNat _ _).trans (Nat.mod_eq_of_lt (by omega))
        rw [BitVec.toNat_shiftLeft, mantissaInRange, Nat.shiftLeft_eq, Nat.pow_mul]
        exact Nat.mod_eq_of_lt inRange

/-- Compact targets are unfolded as whole numbers would be: a form stands for its number
unless that is negative or needs more than 256 bits, and the three ranges that are tested
for the latter are exactly these numbers.  The bounds of a retarget are those of whole
numbers too, also where four times the old target is more than a word holds. -/
theorem compact_arithmetic_is_exact (bits : UInt32) (old new : Target) :
    compactSize bits = bits.toNat / 2 ^ 24 ∧ compactMantissa bits = bits.toNat % 2 ^ 24 ∧
      (ofBits bits).toNat =
        (if compactMantissa bits < 2 ^ 23 ∧
            compactMantissa bits * 256 ^ compactSize bits / 256 ^ 3 < 2 ^ 256 then
          compactMantissa bits * 256 ^ compactSize bits / 256 ^ 3
        else 0) ∧
      (compactOverflows (compactSize bits) (compactMantissa bits) = true ↔
        2 ^ 256 ≤ compactMantissa bits * 256 ^ compactSize bits / 256 ^ 3) ∧
      (old.mayBecome new = true ↔
        old ≠ 0 ∧ new ≠ 0 ∧ old.toNat / 4 ≤ new.toNat ∧ new.toNat ≤ 4 * old.toNat) := by
  have mantissa_eq := compactMantissa_eq bits
  have isWord : compactMantissa bits < 2 ^ 24 := by
    rw [mantissa_eq]
    exact Nat.mod_lt _ (by decide)
  exact ⟨compactSize_eq bits, mantissa_eq, toNat_ofBits bits, compactOverflows_iff isWord,
    mayBecome_iff⟩

/-- A compact target is a mantissa of less than 23 bits with a number of bytes
behind it. -/
theorem exists_scale (bits : UInt32) :
    ∃ mantissa exponent, mantissa < 2 ^ 23 ∧ (ofBits bits).toNat = mantissa * 256 ^ exponent := by
  rw [toNat_ofBits]
  generalize compactSize bits = size
  generalize compactMantissa bits = mantissa
  split
  next fits =>
    rcases Nat.le_total size 3 with short | long
    · refine ⟨mantissa / 256 ^ (3 - size), 0, ?_, ?_⟩
      · exact Nat.lt_of_le_of_lt (Nat.div_le_self _ _) fits.1
      · rw [compactNumber_of_short short, Nat.pow_zero, Nat.mul_one]
    · exact ⟨mantissa, size - 3, fits.1, compactNumber_of_long long⟩
  next => exact ⟨0, 0, by decide, rfl⟩

/-- The compact form of a size and a mantissa. -/
def compactBits (size mantissa : Nat) : UInt32 :=
  UInt32.ofNat (size * 2 ^ 24 + mantissa)

theorem toNat_ofBits_compactBits {mantissa exponent : Nat} (signless : mantissa < 2 ^ 23)
    (inRange : mantissa * 256 ^ exponent < 2 ^ 256) (short : exponent + 3 < 256) :
    (ofBits (compactBits (exponent + 3) mantissa)).toNat = mantissa * 256 ^ exponent := by
  have toNat_eq : (compactBits (exponent + 3) mantissa).toNat =
      (exponent + 3) * 2 ^ 24 + mantissa :=
    UInt32.toNat_ofNat_of_lt' (by simp only [UInt32.size]; omega)
  have size_eq : compactSize (compactBits (exponent + 3) mantissa) = exponent + 3 := by
    rw [compactSize_eq, toNat_eq]
    omega
  have mantissa_eq : compactMantissa (compactBits (exponent + 3) mantissa) = mantissa := by
    rw [compactMantissa_eq, toNat_eq]
    omega
  have number_eq : compactNumber (exponent + 3) mantissa = mantissa * 256 ^ exponent :=
    compactNumber_of_long (Nat.le_add_left 3 exponent)
  rw [toNat_ofBits, size_eq, mantissa_eq, number_eq, if_pos ⟨signless, inRange⟩]

/-- The targets that have a compact form. -/
theorem exists_ofBits_iff {number : Nat} (inRange : number < 2 ^ 256) :
    (∃ bits, (ofBits bits).toNat = number) ↔
      ∃ mantissa exponent, mantissa < 2 ^ 23 ∧ number = mantissa * 256 ^ exponent := by
  constructor
  · rintro ⟨bits, rfl⟩
    exact exists_scale bits
  · rintro ⟨mantissa, exponent, signless, rfl⟩
    rcases Nat.eq_zero_or_pos mantissa with rfl | positive
    · exact ⟨0, by rw [Nat.zero_mul]; rfl⟩
    · have short : exponent < 32 := by
        apply Nat.lt_of_not_le
        intro long
        apply Nat.not_le.mpr inRange
        calc 2 ^ 256 = 1 * 256 ^ 32 := by decide
          _ ≤ mantissa * 256 ^ exponent :=
              Nat.mul_le_mul positive (Nat.pow_le_pow_right (by decide) long)
      exact ⟨_, toNat_ofBits_compactBits signless inRange (by omega)⟩

/-- Compact targets differ by more than one part in `2 ^ 23`. -/
theorem lt_gap {lower upper : UInt32} (less : (ofBits lower).toNat < (ofBits upper).toNat) :
    (ofBits lower).toNat < 2 ^ 23 * ((ofBits upper).toNat - (ofBits lower).toNat) := by
  obtain ⟨lowerMantissa, lowerExponent, lowerSmall, lowerIs⟩ := exists_scale lower
  obtain ⟨upperMantissa, upperExponent, upperSmall, upperIs⟩ := exists_scale upper
  generalize (ofBits lower).toNat = below at *
  generalize (ofBits upper).toNat = above at *
  have positive : 0 < above - below := Nat.sub_pos_of_lt less
  -- The difference is a multiple of the lesser of the two places.
  rcases Nat.le_total lowerExponent upperExponent with order | order
  · have multiple : 256 ^ lowerExponent ∣ above - below := by
      rw [lowerIs, upperIs]
      exact Nat.dvd_sub ((Nat.pow_dvd_pow 256 order).mul_left _) (Nat.dvd_mul_left _ _)
    calc below = lowerMantissa * 256 ^ lowerExponent := lowerIs
      _ < 2 ^ 23 * 256 ^ lowerExponent :=
          Nat.mul_lt_mul_of_pos_right lowerSmall (Nat.pow_pos (by decide))
      _ ≤ 2 ^ 23 * (above - below) :=
          Nat.mul_le_mul_left _ (Nat.le_of_dvd positive multiple)
  · have multiple : 256 ^ upperExponent ∣ above - below := by
      rw [lowerIs, upperIs]
      exact Nat.dvd_sub (Nat.dvd_mul_left _ _) ((Nat.pow_dvd_pow 256 order).mul_left _)
    calc below < above := less
      _ = upperMantissa * 256 ^ upperExponent := upperIs
      _ < 2 ^ 23 * 256 ^ upperExponent :=
          Nat.mul_lt_mul_of_pos_right upperSmall (Nat.pow_pos (by decide))
      _ ≤ 2 ^ 23 * (above - below) :=
          Nat.mul_le_mul_left _ (Nat.le_of_dvd positive multiple)

/-- Of two compact targets the lesser has the greater difficulty, unless that of
the other is less than `2 ^ 23`. -/
theorem difficulty_lt_of_lt {lower upper : UInt32} {reference : Target}
    (nonzero : ofBits lower ≠ 0) (less : (ofBits lower).toNat < (ofBits upper).toNat)
    (large : 2 ^ 23 ≤ ((ofBits upper).difficulty reference).toNat) :
    ((ofBits upper).difficulty reference).toNat <
      ((ofBits lower).difficulty reference).toNat := by
  have gap := lt_gap less
  have positive : 0 < (ofBits lower).toNat := toNat_pos_iff.mpr nonzero
  have upperNonzero : ofBits upper ≠ 0 := toNat_pos_iff.mp (Nat.zero_lt_of_lt less)
  rw [toNat_difficulty, if_neg upperNonzero] at large ⊢
  rw [toNat_difficulty, if_neg nonzero]
  generalize (ofBits lower).toNat = below at *
  generalize (ofBits upper).toNat = above at *
  rw [Nat.lt_iff_add_one_le, Nat.le_div_iff_mul_le positive]
  generalize times : reference.toNat / above = count at *
  calc (count + 1) * below = count * below + below := Nat.succ_mul count below
    _ ≤ count * below + 2 ^ 23 * (above - below) := by omega
    _ ≤ count * below + count * (above - below) :=
        Nat.add_le_add_left (Nat.mul_le_mul_right _ large) _
    _ = count * above := by rw [← Nat.mul_add, Nat.add_sub_cancel' (Nat.le_of_lt less)]
    _ ≤ reference.toNat := times ▸ Nat.div_mul_le_self _ _

/-- Compact targets of one difficulty are the same, if it is not less than `2 ^ 23`
and not that of the target zero. -/
theorem eq_of_difficulty_eq {left right : UInt32} {reference : Target}
    (same : (ofBits left).difficulty reference = (ofBits right).difficulty reference)
    (large : 2 ^ 23 ≤ ((ofBits right).difficulty reference).toNat)
    (bounded : ((ofBits right).difficulty reference).toNat < 2 ^ 256 - 1) :
    ofBits left = ofBits right := by
  have nonzero {bits : UInt32} (less : ((ofBits bits).difficulty reference).toNat < 2 ^ 256 - 1) :
      ofBits bits ≠ 0 := by
    intro zero
    rw [toNat_difficulty, if_pos zero] at less
    exact Nat.lt_irrefl _ less
  rw [← BitVec.toNat_inj]
  rcases Nat.lt_trichotomy (ofBits left).toNat (ofBits right).toNat with less | equal | greater
  · have := difficulty_lt_of_lt (nonzero (same ▸ bounded)) less large
    rw [same] at this
    exact absurd this (Nat.lt_irrefl _)
  · exact equal
  · have := difficulty_lt_of_lt (nonzero bounded) greater (same ▸ large)
    rw [same] at this
    exact absurd this (Nat.lt_irrefl _)

end HeaderRelay.Target
