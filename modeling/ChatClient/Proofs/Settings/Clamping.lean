import Mathlib.Tactic.NormNum
import ChatClient.Json.Printer
import ChatClient.Proofs.Number.Order
import ChatClient.Settings.Bounds

/-! Forcing a number into bounds, told in terms of the numbers that are meant. Whatever comes in,
what comes out is finite and within the bounds; a number that is within them already is kept as it
is, and for that reason doing it twice changes nothing. A finite number is never written as null. -/

namespace ChatClient.Clamping
open Json ExactValue NumberOrder

/-- A number that can be sent: finite, and between two ends. -/
structure Within (low high sent : Binary64) : Prop where
  finite : sent.isFinite = true
  above : exact low ≤ exact sent
  below : exact sent ≤ exact high

/-- What a given number is forced to between two finite ends. -/
structure Forced (low high given sent : Binary64) : Prop where
  nan : given.isNaN = true → sent = low
  infinite : given.isNaN = false → given.isFinite = false →
    sent = if given.negative then low else high
  below : given.isFinite = true → exact given < exact low → sent = low
  within : given.isFinite = true → exact low ≤ exact given → exact given ≤ exact high → sent = given
  above : given.isFinite = true → exact high < exact given → sent = high
  sent : Within low high sent

section Bounds
variable {bounds : Bounds} {x : Binary64} (low : bounds.low.isFinite = true)
  (high : bounds.high.isFinite = true)

theorem clamp_nan (nan : x.isNaN = true) : bounds.clamp x = bounds.low := by
  simp [Bounds.clamp, nan]

include low high

theorem ends_in_order : exact bounds.low ≤ exact bounds.high :=
  (le_iff_exact_le low high).mp bounds.low_le_high

theorem clamp_infinite (number : x.isNaN = false) (infinite : x.isFinite = false) :
    bounds.clamp x = if x.negative then bounds.low else bounds.high := by
  have below := infinite_lt_iff number infinite low
  have above := lt_infinite_iff number infinite high
  cases sign : x.negative <;> simp [Bounds.clamp, number, below, above, sign]

theorem clamp_finite (finite : x.isFinite = true) :
    bounds.clamp x =
      if exact x < exact bounds.low then bounds.low
      else if exact bounds.high < exact x then bounds.high
      else x := by
  simp only [Bounds.clamp, not_nan_of_finite finite, Bool.false_eq_true, ↓reduceIte,
    lt_iff_exact_lt finite low, lt_iff_exact_lt high finite]

/-- Whatever comes in, what comes out can be sent. -/
theorem clamp_within (x : Binary64) : Within bounds.low bounds.high (bounds.clamp x) := by
  have ordered := ends_in_order low high
  have lower : Within bounds.low bounds.high bounds.low := ⟨low, le_rfl, ordered⟩
  have upper : Within bounds.low bounds.high bounds.high := ⟨high, ordered, le_rfl⟩
  cases nan : x.isNaN with
  | true => rwa [clamp_nan nan]
  | false =>
    cases finite : x.isFinite with
    | false =>
      rw [clamp_infinite low high nan finite]
      split
      · exact lower
      · exact upper
    | true =>
      rw [clamp_finite low high finite]
      split
      · exact lower
      · rename_i above
        split
        · exact upper
        · rename_i below
          exact ⟨finite, not_lt.mp above, not_lt.mp below⟩

theorem clamp_forced (x : Binary64) : Forced bounds.low bounds.high x (bounds.clamp x) where
  nan := clamp_nan
  infinite := clamp_infinite low high
  below finite below := by rw [clamp_finite low high finite, if_pos below]
  within finite above below := by
    rw [clamp_finite low high finite, if_neg (not_lt.mpr above), if_neg (not_lt.mpr below)]
  above finite above := by
    have ordered := ends_in_order low high
    rw [clamp_finite low high finite, if_neg (not_lt.mpr (ordered.trans above.le)), if_pos above]
  sent := clamp_within low high x

/-- What has been forced into bounds stays as it is. -/
theorem clamp_clamp (x : Binary64) : bounds.clamp (bounds.clamp x) = bounds.clamp x := by
  have within := clamp_within low high x
  exact (clamp_forced low high _).within within.finite within.above within.below

end Bounds

section Ends

/-- The double nearest to one tenth, by its bits. -/
def tenth : Binary64 :=
  Binary.ofBits .double 0x3FB999999999999A

/-- The double that is one, by its bits. -/
def one : Binary64 :=
  Binary.ofBits .double 0x3FF0000000000000

theorem sampling_ends : samplingBounds.low = tenth ∧ samplingBounds.high = one := by
  decide +kernel

theorem exact_tenth : exact tenth = 3602879701896397 / 2 ^ 55 := by
  have sign : tenth.negative = false := by decide +kernel
  have significand : tenth.significand = 7205759403792794 := by decide +kernel
  have unit : tenth.unit = -56 := by decide +kernel
  rw [exact, sign, significand, unit]
  norm_num

theorem exact_one : exact one = 1 := by
  have sign : one.negative = false := by decide +kernel
  have significand : one.significand = 2 ^ 52 := by decide +kernel
  have unit : one.unit = -52 := by decide +kernel
  rw [exact, sign, significand, unit]
  norm_num

/-- A sampling value is forced between one tenth and one. -/
theorem sampling_forced (x : Binary64) : Forced tenth one x (samplingBounds.clamp x) := by
  have low : samplingBounds.low.isFinite = true := by decide +kernel
  have high : samplingBounds.high.isFinite = true := by decide +kernel
  have forced := clamp_forced low high x
  rwa [sampling_ends.1, sampling_ends.2] at forced

theorem sampling_clamp_clamp (x : Binary64) :
    samplingBounds.clamp (samplingBounds.clamp x) = samplingBounds.clamp x :=
  clamp_clamp (by decide +kernel) (by decide +kernel) x

end Ends

section Text

/-- A text that begins as a number does. -/
def Numeric (text : String) : Prop :=
  ∃ c rest, text.toList = c :: rest ∧ (c = '-' ∨ c.isDigit = true)

theorem not_null_of_numeric {text : String} (numeric : Numeric text) : text ≠ "null" := by
  rintro rfl
  obtain ⟨c, rest, shown, first⟩ := numeric
  have letter : c = 'n' := (List.cons.inj shown).1.symm
  subst letter
  revert first
  decide

theorem numeric_append {text : String} (numeric : Numeric text) (behind : String) :
    Numeric (text ++ behind) := by
  obtain ⟨c, rest, shown, first⟩ := numeric
  exact ⟨c, rest ++ behind.toList, by rw [String.toList_append, shown, List.cons_append], first⟩

theorem numeric_digits {c : Char} (digit : c.isDigit = true) (rest : List Char) :
    Numeric (String.ofList (c :: rest)) :=
  ⟨c, rest, String.toList_ofList, .inr digit⟩

theorem digits_of_nat (n : ℕ) : ∃ c rest, Nat.toDigits 10 n = c :: rest ∧ c.isDigit = true := by
  have some : Nat.toDigits 10 n ≠ [] := Nat.toDigits_ne_nil
  obtain ⟨c, rest, shown⟩ := List.exists_cons_of_ne_nil some
  have first : c ∈ Nat.toDigits 10 n := shown ▸ List.mem_cons_self
  exact ⟨c, rest, shown, Nat.isDigit_of_mem_toDigits (by decide) (by decide) first⟩

theorem nat_numeric (n : ℕ) : Numeric (toString (n : ℤ)) := by
  obtain ⟨c, rest, shown, digit⟩ := digits_of_nat n
  change Numeric (Nat.repr n)
  rw [Nat.repr_eq_ofList_toDigits, shown]
  exact numeric_digits digit rest

theorem pointed_numeric (style : DecimalStyle) {c : Char} (digit : c.isDigit = true)
    (rest : List Char) (before : ℤ) : Numeric (style.pointed (c :: rest) before) := by
  unfold DecimalStyle.pointed
  split
  · exact numeric_append ⟨'0', ['.'], rfl, .inr rfl⟩ _
  · rename_i some
    split
    · exact numeric_append (numeric_digits digit _) _
    · obtain ⟨count, same⟩ : ∃ count, before.toNat = count + 1 := ⟨before.toNat - 1, by omega⟩
      rw [same, List.take_succ_cons]
      exact numeric_append (numeric_append (numeric_digits digit _) _) _

theorem render_numeric (style : DecimalStyle) (d : Decimal) : Numeric (style.render d) := by
  obtain ⟨c, rest, shown, digit⟩ := digits_of_nat d.digits
  unfold DecimalStyle.render
  rw [shown]
  dsimp only
  split
  · exact numeric_append ⟨'0', [], rfl, .inr rfl⟩ _
  · split
    · exact pointed_numeric style digit rest _
    · rw [List.take_succ_cons]
      exact numeric_append (numeric_append (numeric_append (numeric_digits digit _) _) _) _

/-- A finite number is not written as null. -/
theorem finite_shown {x : Binary64} (finite : x.isFinite = true) :
    (Value.float x).print ≠ "null" := by
  have digits := render_numeric .json (Decimal.shortest DecimalStyle.json.tie x)
  apply not_null_of_numeric
  simp only [Value.float, Value.print, Number.print, finite, ↓reduceIte, Binary.render]
  cases x.negative with
  | true => exact numeric_append ⟨'-', [], rfl, .inl rfl⟩ _
  | false => simpa using digits

/-- An integer that counts something is not written as null. -/
theorem nat_shown (n : ℕ) : (Value.nat n).print ≠ "null" := by
  rw [Value.nat, Value.print, Number.print]
  exact not_null_of_numeric (nat_numeric n)

end Text

end ChatClient.Clamping
