import Mathlib.Algebra.Field.Rat
import Mathlib.Algebra.Order.Field.Basic
import Mathlib.Algebra.Order.Ring.Rat
import Mathlib.Data.Nat.Cast.Field
import ChatClient.Number.Binary

/-! The rational number that a finite floating point number stands for, and which of these numbers
are integers. -/

namespace ChatClient.ExactValue

variable {f : Format}

/-- The number that a finite floating point number stands for. -/
def exact (x : Binary f) : ℚ :=
  (if x.negative then -1 else 1) * (x.significand * 2 ^ x.unit)

theorem ratio_value (x : Binary f) : (x.ratio.1 : ℚ) / x.ratio.2 = x.significand * 2 ^ x.unit := by
  simp only [Binary.ratio]
  push_cast
  obtain ⟨k, same | same⟩ := Int.eq_nat_or_neg x.unit
  · simp [same]
  · simp [same, div_eq_mul_inv]

theorem ratio_ne_zero (x : Binary f) : (x.ratio.2 : ℚ) ≠ 0 :=
  Nat.cast_ne_zero.mpr (Nat.two_pow_pos _).ne'

theorem integer_unique {x : Binary f} {m n : ℤ} (first : exact x = m) (second : exact x = n) :
    m = n := by
  exact_mod_cast first.symm.trans second

/-- A number without a fraction stands for its integer part. -/
theorem exact_of_whole (x : Binary f) (whole : x.ratio.2 ∣ x.ratio.1) : exact x = x.truncate := by
  rw [exact, ← ratio_value, ← Nat.cast_div whole (ratio_ne_zero x), Binary.truncate]
  split
  · rw [Int.cast_neg, Int.cast_natCast, neg_one_mul]
  · rw [Int.cast_natCast, one_mul]

theorem whole_of_exact {x : Binary f} {n : ℤ} (is : exact x = n) : x.ratio.2 ∣ x.ratio.1 := by
  have size : (x.ratio.1 : ℚ) = n.natAbs * x.ratio.2 := by
    rw [Nat.cast_natAbs, Int.cast_abs, ← is, exact, ← ratio_value, abs_mul, abs_div, Nat.abs_cast,
      Nat.abs_cast, apply_ite abs, abs_neg, abs_one, ite_self, one_mul,
      div_mul_cancel₀ _ (ratio_ne_zero x)]
  have product : x.ratio.1 = n.natAbs * x.ratio.2 := by exact_mod_cast size
  rw [product]
  exact Nat.dvd_mul_left _ _

theorem truncate_of_exact {x : Binary f} {n : ℤ} (is : exact x = n) : x.truncate = n :=
  integer_unique (exact_of_whole x (whole_of_exact is)) is

/-- The numbers that count as integral are those that stand for an integer. -/
theorem isIntegral_iff (x : Binary f) : x.isIntegral ↔ x.isFinite ∧ ∃ n : ℤ, exact x = n := by
  rw [Binary.isIntegral, Bool.and_eq_true, beq_iff_eq, ← Nat.dvd_iff_mod_eq_zero]
  refine and_congr_right fun _ => ?_
  constructor
  · intro whole
    exact ⟨_, exact_of_whole x whole⟩
  · rintro ⟨n, is⟩
    exact whole_of_exact is

section Rounding

theorem ratioLog2_one {num : ℕ} (nonzero : num ≠ 0) : Binary.ratioLog2 num 1 = num.log2 := by
  have least : 2 ^ num.log2 ≤ num := Nat.log2_self_le nonzero
  have none : (-(num.log2 : ℤ)).toNat = 0 := by omega
  have one : Nat.log2 1 = 0 := by decide
  simp only [Binary.ratioLog2, one, Nat.cast_zero, sub_zero, none, Int.toNat_natCast]
  rw [if_neg]
  simpa using least

/-- Rounding moves by less than one. -/
theorem divNearest_bounds (num den : ℕ) :
    num / den ≤ Binary.divNearest num den ∧ Binary.divNearest num den ≤ num / den + 1 := by
  simp only [Binary.divNearest]
  split
  · omega
  · split
    · omega
    · split <;> omega

/-- An integer that fills the significand is counted in units of its last place, with a full
significand after rounding too; what overflows is cut to infinity. -/
theorem ofInt_magnitude {n : ℤ} (nonzero : n ≠ 0) (long : f.fractionBits ≤ n.natAbs.log2)
    (small : f.lowest ≤ 0) :
    ∃ scaled, 2 ^ f.fractionBits ≤ scaled ∧ scaled ≤ 2 ^ (f.fractionBits + 1) ∧
      (Binary.ofInt f n).magnitude =
        min (((n.natAbs.log2 - f.fractionBits : ℕ) - f.lowest).toNat * 2 ^ f.fractionBits + scaled)
          f.infinity := by
  have some : n.natAbs ≠ 0 := Int.natAbs_ne_zero.mpr nonzero
  have place : max ((n.natAbs.log2 : ℤ) - f.fractionBits) f.lowest =
      (n.natAbs.log2 - f.fractionBits : ℕ) := by omega
  have whole : 2 ^ f.fractionBits * 2 ^ (n.natAbs.log2 - f.fractionBits) = 2 ^ n.natAbs.log2 := by
    rw [← pow_add, Nat.add_sub_cancel' long]
  refine ⟨Binary.divNearest n.natAbs (2 ^ (n.natAbs.log2 - f.fractionBits)), ?_, ?_, ?_⟩
  · refine le_trans ?_ (divNearest_bounds _ _).1
    rw [Nat.le_div_iff_mul_le (Nat.two_pow_pos _), whole]
    exact Nat.log2_self_le some
  · refine le_trans (divNearest_bounds _ _).2 ?_
    apply Nat.div_lt_of_lt_mul
    rw [mul_comm, pow_succ, mul_right_comm, whole, ← pow_succ]
    exact Nat.lt_log2_self
  · simp only [Binary.ofInt, Binary.ofRatio, Binary.nearestMagnitude, if_neg some,
      ratioLog2_one some, place, Int.toNat_natCast, one_mul]
    have none : (-((n.natAbs.log2 - f.fractionBits : ℕ) : ℤ)).toNat = 0 := by omega
    rw [none, pow_zero, mul_one]

/-- An integer that fills the significand still does so when it is rounded, in units no smaller. -/
theorem ofInt_normal {n : ℤ} (nonzero : n ≠ 0) (long : f.fractionBits ≤ n.natAbs.log2)
    (small : f.lowest ≤ 0) (finite : (Binary.ofInt f n).isFinite) :
    ((n.natAbs.log2 - f.fractionBits : ℕ) : ℤ) ≤ (Binary.ofInt f n).unit ∧
      2 ^ f.fractionBits ≤ (Binary.ofInt f n).significand := by
  obtain ⟨scaled, full, -, magnitude⟩ := ofInt_magnitude nonzero long small
  have uncut : (Binary.ofInt f n).magnitude < f.infinity := by
    simpa [Binary.isFinite] using finite
  set place : ℤ := ((n.natAbs.log2 - f.fractionBits : ℕ) : ℤ)
  have fields : (place - f.lowest).toNat + 1 ≤
      (Binary.ofInt f n).magnitude / 2 ^ f.fractionBits := by
    rw [Nat.le_div_iff_mul_le (Nat.two_pow_pos _), add_mul, one_mul]
    omega
  constructor
  · rw [Binary.unit]
    omega
  · simp only [Binary.significand]
    rw [if_neg (by omega)]
    exact Nat.le_add_right _ _

/-- An integer too long for the significand rounds to an integer. -/
theorem isIntegral_ofInt {n : ℤ} (nonzero : n ≠ 0) (long : f.fractionBits ≤ n.natAbs.log2)
    (small : f.lowest ≤ 0) (finite : (Binary.ofInt f n).isFinite) :
    (Binary.ofInt f n).isIntegral := by
  have unit := (ofInt_normal nonzero long small finite).1
  have undivided : (Binary.ofInt f n).ratio.2 = 1 := by
    have none : (-(Binary.ofInt f n).unit).toNat = 0 := by omega
    simp only [Binary.ratio, none]
  simp [Binary.isIntegral, finite, undivided, Nat.mod_one]

/-- Rounding takes no integer below the power of two that it has reached. -/
theorem exact_ofInt {n : ℤ} (nonzero : n ≠ 0) (long : f.fractionBits ≤ n.natAbs.log2)
    (small : f.lowest ≤ 0) (finite : (Binary.ofInt f n).isFinite) :
    ∃ size : ℚ, 2 ^ n.natAbs.log2 ≤ size ∧
      exact (Binary.ofInt f n) = if n < 0 then -size else size := by
  obtain ⟨unit, significand⟩ := ofInt_normal nonzero long small finite
  refine ⟨(Binary.ofInt f n).significand * 2 ^ (Binary.ofInt f n).unit, ?_, ?_⟩
  · have whole : f.fractionBits + (n.natAbs.log2 - f.fractionBits) = n.natAbs.log2 :=
      Nat.add_sub_cancel' long
    calc (2 : ℚ) ^ n.natAbs.log2
        = 2 ^ f.fractionBits * 2 ^ ((n.natAbs.log2 - f.fractionBits : ℕ) : ℤ) := by
          rw [zpow_natCast, ← pow_add, whole]
      _ ≤ (Binary.ofInt f n).significand * 2 ^ (Binary.ofInt f n).unit := by
          refine mul_le_mul ?_ (zpow_le_zpow_right₀ one_le_two unit) (zpow_nonneg zero_le_two _)
            (Nat.cast_nonneg _)
          exact_mod_cast significand
  · have sign : (Binary.ofInt f n).negative = decide (n < 0) := rfl
    rw [exact, sign]
    by_cases negative : n < 0 <;> simp [negative]

/-- An integer of 64 bits is far from overflowing a double. -/
theorem isFinite_ofInt_double {n : ℤ} (nonzero : n ≠ 0) (long : 52 ≤ n.natAbs.log2)
    (within : n.natAbs.log2 < 64) : (Binary.ofInt .double n).isFinite := by
  have lowest : Format.lowest .double = -1074 := by decide
  have infinity : Format.infinity .double = 2047 * 2 ^ 52 := by decide
  obtain ⟨scaled, -, short, magnitude⟩ :=
    ofInt_magnitude (f := .double) nonzero long (by omega)
  have bits : Format.fractionBits .double = 52 := rfl
  rw [bits] at short magnitude
  have most : ((n.natAbs.log2 - 52 : ℕ) - Format.lowest .double).toNat ≤ 1085 := by omega
  rw [Binary.isFinite, decide_eq_true_eq, magnitude, infinity]
  omega

end Rounding

end ChatClient.ExactValue
