import Mathlib.Data.Nat.Digits.Defs
import ChatClient.Number.Numeral
import ChatClient.Proofs.Text.Trimming

/-! Which texts denote integers, told apart from how they are read: decimal digits with an optional
sign and blanks around them. Exactly these are read, each as the integer that it denotes. -/

namespace ChatClient.Numerals
open Text Trimming

/-- Decimal digits, at least one. Zeros may stand in front. -/
structure Digits (chars : List Char) : Prop where
  nonempty : chars ≠ []
  ascii : ∀ c ∈ chars, c.isDigit

/-- The number that decimal digits denote, the least significant one last. -/
def value (digits : List Char) : ℕ :=
  Nat.ofDigits 10 (digits.reverse.map fun c => c.toNat - '0'.toNat)

/-- A decimal numeral and the integer that it denotes. -/
inductive Decimal : List Char → ℤ → Prop
  | plain {digits : List Char} : Digits digits → Decimal digits (value digits)
  | plus {digits : List Char} : Digits digits → Decimal ('+' :: digits) (value digits)
  | minus {digits : List Char} : Digits digits → Decimal ('-' :: digits) (-value digits)

/-- A text that denotes an integer: a decimal numeral with nothing but blanks around it. -/
def Spells (text : String) (n : ℤ) : Prop :=
  ∃ numeral, Decimal numeral n ∧ Surrounded text.toList numeral

section Digits

theorem ofDigits_eq_value (digits : List Char) : Numeral.ofDigits digits = value digits := by
  induction digits using List.reverseRecOn with
  | nil => rfl
  | append_singleton front last ih =>
    have read : Numeral.ofDigits (front ++ [last]) =
        Numeral.ofDigits front * 10 + (last.toNat - 48) := by
      simp [Numeral.ofDigits]
    have denoted : value (front ++ [last]) = (last.toNat - 48) + 10 * value front := by
      simp [value, Nat.ofDigits_cons]
    rw [read, denoted, ih]
    omega

theorem natural_eq_some_iff (chars : List Char) (n : ℕ) :
    Numeral.natural? chars = some n ↔ Digits chars ∧ n = value chars := by
  rw [← ofDigits_eq_value]
  unfold Numeral.natural?
  split
  · rename_i other
    constructor
    · intro read
      cases read
    · rintro ⟨digits, -⟩
      have all : chars.all Numeral.isDigit := List.all_eq_true.mpr digits.ascii
      simp [digits.nonempty, all] at other
  · rename_i read
    have digits : Digits chars := by
      constructor
      · rintro rfl
        simp at read
      · intro c inside
        simp only [Bool.or_eq_true, not_or, Bool.not_eq_true, Bool.not_eq_false',
          List.all_eq_true] at read
        exact read.2 c inside
    simp [digits, eq_comm]

theorem not_blank_of_isDigit {c : Char} (digit : c.isDigit) : isBlank c = false := by
  have ascii : 48 ≤ c.toNat ∧ c.toNat ≤ 57 := by
    simpa [Char.isDigit, UInt32.le_iff_toNat_le] using digit
  simp [isBlank]
  omega

theorem splitSign_digits {chars : List Char} (digits : Digits chars) :
    Numeral.splitSign chars = (false, chars) := by
  unfold Numeral.splitSign
  split
  · exact absurd (digits.ascii '-' (by simp)) (by decide)
  · exact absurd (digits.ascii '+' (by simp)) (by decide)
  · rfl

end Digits

/-- The sign stands in front, and everything behind it is digits. -/
theorem integer_of_split (chars : List Char) :
    Numeral.integer? chars = (Numeral.natural? (Numeral.splitSign chars).2).map fun (n : ℕ) =>
      if (Numeral.splitSign chars).1 then -(n : ℤ) else n := by
  rcases apart : Numeral.splitSign chars with ⟨negative, digits⟩
  simp only [Numeral.integer?, apart]
  cases Numeral.natural? digits <;> rfl

theorem integer_eq_some_iff (chars : List Char) (n : ℤ) :
    Numeral.integer? chars = some n ↔ Decimal chars n := by
  rw [integer_of_split]
  constructor
  · intro read
    obtain ⟨size, natural, rfl⟩ := Option.map_eq_some_iff.mp read
    obtain ⟨digits, rfl⟩ := (natural_eq_some_iff _ _).mp natural
    clear read natural
    unfold Numeral.splitSign at digits ⊢
    split at digits
    · exact .minus digits
    · exact .plus digits
    · exact .plain digits
  · intro numeral
    cases numeral with
    | plain digits =>
      rw [splitSign_digits digits, (natural_eq_some_iff _ _).mpr ⟨digits, rfl⟩]
      rfl
    | plus digits | minus digits =>
      rw [Numeral.splitSign, (natural_eq_some_iff _ _).mpr ⟨digits, rfl⟩]
      rfl

theorem Decimal.solid {chars : List Char} {n : ℤ} (numeral : Decimal chars n) :
    ∀ c ∈ chars, isBlank c = false := by
  intro c inside
  cases numeral with
  | plain digits => exact not_blank_of_isDigit (digits.ascii c inside)
  | plus digits | minus digits =>
    rcases List.mem_cons.mp inside with rfl | among
    · decide
    · exact not_blank_of_isDigit (digits.ascii c among)

/-- The texts that are read as an integer once they are trimmed are those that denote it. -/
theorem integer_of_trimmed_iff (text : String) (n : ℤ) :
    Numeral.integer? (trimChars text.toList) = some n ↔ Spells text n := by
  rw [integer_eq_some_iff]
  constructor
  · intro numeral
    exact ⟨_, numeral, trimChars_surrounded _⟩
  · rintro ⟨chars, numeral, around⟩
    rwa [trimChars_of_surrounded (tight_of_solid numeral.solid) around]

theorem Spells.unique {text : String} {m n : ℤ} (first : Spells text m) (second : Spells text n) :
    m = n := by
  rw [← integer_of_trimmed_iff] at first second
  exact Option.some.inj (first.symm.trans second)

end ChatClient.Numerals
