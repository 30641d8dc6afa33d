import Mathlib.Order.Monotone.Basic
import ChatClient.Proofs.Number.ExactValue

/-! The order of floating point numbers. It is decided on signs and magnitudes; for finite numbers
it is the order of the numbers that they stand for, with one place for both zeros, and an infinite
number lies beyond all of them on its side. -/

namespace ChatClient.NumberOrder
open ExactValue

variable {f : Format}

/-- The number that a magnitude stands for. -/
def size (f : Format) (magnitude : ℕ) : ℚ :=
  (if magnitude / 2 ^ f.fractionBits = 0 then magnitude % 2 ^ f.fractionBits
    else 2 ^ f.fractionBits + magnitude % 2 ^ f.fractionBits : ℕ) *
    2 ^ (f.lowest + ((magnitude / 2 ^ f.fractionBits - 1 : ℕ) : ℤ))

/-- The number that a place in the order stands for. -/
def placed (f : Format) (key : ℤ) : ℚ :=
  if key < 0 then -size f key.natAbs else size f key.natAbs

section Magnitudes

theorem size_zero (f : Format) : size f 0 = 0 := by
  simp [size]

/-- From one magnitude to the next the number grows by one unit, also where a carry doubles the
unit. -/
theorem size_lt_succ (f : Format) (magnitude : ℕ) : size f magnitude < size f (magnitude + 1) := by
  have full : 0 < 2 ^ f.fractionBits := Nat.two_pow_pos _
  have split := Nat.div_add_mod magnitude (2 ^ f.fractionBits)
  have short := Nat.mod_lt magnitude full
  unfold size
  generalize magnitude / 2 ^ f.fractionBits = place at split ⊢
  generalize magnitude % 2 ^ f.fractionBits = fraction at split short ⊢
  by_cases carry : fraction + 1 = 2 ^ f.fractionBits
  · have sum : 0 + 2 ^ f.fractionBits * (place + 1) = magnitude + 1 := by
      rw [mul_add]
      omega
    obtain ⟨next, nothing⟩ := (Nat.div_mod_unique full).mpr ⟨sum, full⟩
    rw [next, nothing, if_neg (Nat.succ_ne_zero place), Nat.add_zero, Nat.add_sub_cancel]
    cases place with
    | zero =>
      rw [if_pos rfl]
      refine mul_lt_mul_of_pos_right (Nat.cast_lt.mpr ?_) (zpow_pos two_pos _)
      omega
    | succ place =>
      have doubled : (2 : ℚ) ^ (f.lowest + ((place + 1 : ℕ) : ℤ)) =
          2 * 2 ^ (f.lowest + (place : ℤ)) := by
        rw [Nat.cast_succ, ← add_assoc, zpow_add_one₀ two_ne_zero, mul_comm]
      rw [doubled, ← mul_assoc, Nat.add_sub_cancel, if_neg (Nat.succ_ne_zero place)]
      refine mul_lt_mul_of_pos_right ?_ (zpow_pos two_pos _)
      have larger : 2 ^ f.fractionBits + fraction < 2 ^ f.fractionBits * 2 := by omega
      exact_mod_cast larger
  · have sum : fraction + 1 + 2 ^ f.fractionBits * place = magnitude + 1 := by omega
    obtain ⟨same, next⟩ := (Nat.div_mod_unique full).mpr ⟨sum, by omega⟩
    rw [same, next]
    refine mul_lt_mul_of_pos_right (Nat.cast_lt.mpr ?_) (zpow_pos two_pos _)
    split <;> omega

theorem size_strictMono (f : Format) : StrictMono (size f) :=
  strictMono_nat_of_lt_succ (size_lt_succ f)

theorem placed_lt_placed {low high : ℤ} (below : low < high) : placed f low < placed f high := by
  have positive : ∀ magnitude, 0 < magnitude → 0 < size f magnitude := fun magnitude some =>
    (size_zero f).symm.trans_lt (size_strictMono f some)
  have least : ∀ magnitude, 0 ≤ size f magnitude := fun magnitude =>
    (size_zero f).symm.trans_le ((size_strictMono f).monotone (Nat.zero_le magnitude))
  unfold placed
  split <;> split
  · exact neg_lt_neg (size_strictMono f (by omega))
  · have negative := neg_neg_of_pos (positive low.natAbs (by omega))
    exact negative.trans_le (least high.natAbs)
  · omega
  · exact size_strictMono f (by omega)

theorem placed_lt_placed_iff {low high : ℤ} : placed f low < placed f high ↔ low < high := by
  refine ⟨fun before => ?_, placed_lt_placed⟩
  rcases Int.lt_trichotomy low high with below | same | above
  · exact below
  · rw [same] at before
    exact absurd before (lt_irrefl _)
  · exact absurd (placed_lt_placed above) before.not_gt

theorem placed_le_placed_iff {low high : ℤ} : placed f low ≤ placed f high ↔ low ≤ high := by
  rw [← not_lt, ← Int.not_lt, placed_lt_placed_iff]

end Magnitudes

section Numbers
variable {x y : Binary f}

theorem exact_eq_placed (x : Binary f) : exact x = placed f x.key := by
  have value : (x.significand : ℚ) * 2 ^ x.unit = size f x.magnitude := rfl
  rw [exact, value, placed, Binary.key]
  cases x.negative with
  | false => simp
  | true =>
    by_cases nothing : x.magnitude = 0
    · simp [nothing, size_zero]
    · have below : -(x.magnitude : ℤ) < 0 := by omega
      rw [if_pos rfl, if_pos rfl, if_pos below, Int.natAbs_neg, Int.natAbs_natCast, neg_one_mul]

theorem not_nan_of_finite (finite : x.isFinite = true) : x.isNaN = false := by
  simp only [Binary.isFinite, Binary.isNaN, decide_eq_true_eq, decide_eq_false_iff_not] at finite ⊢
  omega

theorem lt_iff_exact_lt (first : x.isFinite = true) (second : y.isFinite = true) :
    x.lt y = true ↔ exact x < exact y := by
  rw [exact_eq_placed, exact_eq_placed, placed_lt_placed_iff]
  simp [Binary.lt, not_nan_of_finite first, not_nan_of_finite second]

theorem le_iff_exact_le (first : x.isFinite = true) (second : y.isFinite = true) :
    x.le y = true ↔ exact x ≤ exact y := by
  rw [exact_eq_placed, exact_eq_placed, placed_le_placed_iff]
  simp [Binary.le, not_nan_of_finite first, not_nan_of_finite second]

theorem infinite_magnitude (number : x.isNaN = false) (infinite : x.isFinite = false) :
    x.magnitude = f.infinity := by
  simp only [Binary.isFinite, Binary.isNaN, decide_eq_false_iff_not] at number infinite
  omega

/-- An infinite number is below a finite one if it is negative. -/
theorem infinite_lt_iff (number : x.isNaN = false) (infinite : x.isFinite = false)
    (finite : y.isFinite = true) : x.lt y = true ↔ x.negative = true := by
  have beyond := infinite_magnitude number infinite
  have within : y.magnitude < f.infinity := of_decide_eq_true finite
  simp only [Binary.lt, number, not_nan_of_finite finite, Bool.not_false, Bool.true_and,
    decide_eq_true_eq, Binary.key, beyond]
  cases x.negative <;> cases y.negative <;> simp <;> omega

/-- An infinite number is above a finite one if it is positive. -/
theorem lt_infinite_iff (number : x.isNaN = false) (infinite : x.isFinite = false)
    (finite : y.isFinite = true) : y.lt x = true ↔ x.negative = false := by
  have beyond := infinite_magnitude number infinite
  have within : y.magnitude < f.infinity := of_decide_eq_true finite
  simp only [Binary.lt, number, not_nan_of_finite finite, Bool.not_false, Bool.true_and,
    decide_eq_true_eq, Binary.key, beyond]
  cases x.negative <;> cases y.negative <;> simp <;> omega

end Numbers

end ChatClient.NumberOrder
