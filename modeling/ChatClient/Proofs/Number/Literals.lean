import ChatClient.Proofs.Number.Numerals

/-! Which texts are read as floating point numbers, told apart from how they are read: a name or
decimal digits with an optional point and exponent, a sign in front of it or none, and blanks around
it. Exactly these are read. -/

namespace ChatClient.Literals
open Text Trimming Numerals

/-- Decimal digits, perhaps with a point among them, in front of them or behind them. -/
inductive Mantissa : List Char → Prop
  | whole {digits : List Char} : Digits digits → Mantissa digits
  | pointed {whole fraction : List Char} :
    Digits (whole ++ fraction) → Mantissa (whole ++ '.' :: fraction)

inductive Exponent : List Char → Prop
  | absent : Exponent []
  | marked {mark : Char} {numeral : List Char} {n : ℤ} :
    mark = 'e' ∨ mark = 'E' → Numerals.Decimal numeral n → Exponent (mark :: numeral)

/-- A literal without a sign. Names may be spelled in any case. -/
inductive Unsigned : List Char → Prop
  | named {chars : List Char} :
    chars.map Char.toLower ∈ ["inf".toList, "infinity".toList, "nan".toList] → Unsigned chars
  | decimal {mantissa exponent : List Char} :
    Mantissa mantissa → Exponent exponent → Unsigned (mantissa ++ exponent)

/-- A literal of a floating point number. -/
inductive Literal : List Char → Prop
  | plain {chars : List Char} : Unsigned chars → Literal chars
  | plus {chars : List Char} : Unsigned chars → Literal ('+' :: chars)
  | minus {chars : List Char} : Unsigned chars → Literal ('-' :: chars)

/-- A text that is a literal with nothing but blanks around it. -/
def Reads (text : String) : Prop :=
  ∃ literal, Literal literal ∧ Surrounded text.toList literal

section Scanning

theorem span_digits {digits rest : List Char} (inside : ∀ c ∈ digits, c.isDigit)
    (stops : ∀ c, rest.head? = some c → c.isDigit = false) :
    (digits ++ rest).takeWhile Numeral.isDigit = digits ∧
      (digits ++ rest).dropWhile Numeral.isDigit = rest := by
  have all : ∀ c ∈ digits, Numeral.isDigit c := inside
  rw [List.takeWhile_append_of_pos all, List.dropWhile_append_of_pos all]
  cases rest with
  | nil => simp
  | cons c behind =>
    have last : Numeral.isDigit c = false := stops c rfl
    simp [last]

theorem exponent_isSome_iff (chars : List Char) :
    (Numeral.exponent? chars).isSome ↔ Exponent chars := by
  cases chars with
  | nil => exact iff_of_true rfl .absent
  | cons mark rest =>
    rw [Numeral.exponent?, Option.isSome_iff_exists]
    constructor
    · rintro ⟨n, read⟩
      split at read
      · rename_i marked
        exact .marked marked ((integer_eq_some_iff rest n).mp read)
      · cases read
    · rintro (_ | ⟨marked, numeral⟩)
      rw [if_pos marked]
      exact ⟨_, (integer_eq_some_iff rest _).mpr numeral⟩

theorem Exponent.stops {exponent : List Char} (behind : Exponent exponent) :
    ∀ c, exponent.head? = some c → c.isDigit = false ∧ c ≠ '.' := by
  intro c first
  cases behind with
  | absent => cases first
  | marked mark =>
    cases first
    rcases mark with rfl | rfl <;> decide

theorem digits_iff {digits : List Char} (inside : ∀ c ∈ digits, c.isDigit) :
    Digits digits ↔ digits ≠ [] :=
  ⟨Digits.nonempty, fun nonempty => ⟨nonempty, inside⟩⟩

theorem scanned_digits (chars : List Char) :
    ∀ c ∈ chars.takeWhile Numeral.isDigit, c.isDigit :=
  fun _ => List.mem_takeWhile_imp

theorem unsigned_pointed_iff (negative : Bool) {chars rest : List Char}
    (point : chars.dropWhile Numeral.isDigit = '.' :: rest) :
    (Numeral.unsigned? negative chars).isSome ↔
      Digits (chars.takeWhile Numeral.isDigit ++ rest.takeWhile Numeral.isDigit) ∧
        Exponent (rest.dropWhile Numeral.isDigit) := by
  have inside : ∀ c ∈ chars.takeWhile Numeral.isDigit ++ rest.takeWhile Numeral.isDigit,
      c.isDigit := by
    intro c among
    exact (List.mem_append.mp among).elim (scanned_digits chars c) (scanned_digits rest c)
  rw [digits_iff inside, ← exponent_isSome_iff, Numeral.unsigned?, point]
  dsimp only
  split
  · rename_i behind same
    obtain rfl : rest = behind := (List.cons.inj same).2
    generalize chars.takeWhile Numeral.isDigit = whole
    generalize rest.takeWhile Numeral.isDigit = fraction
    cases whole <;> cases fraction <;> simp
  · rename_i other
    exact absurd rfl (other rest)

theorem unsigned_whole_iff (negative : Bool) {chars : List Char}
    (whole : ∀ rest, chars.dropWhile Numeral.isDigit ≠ '.' :: rest) :
    (Numeral.unsigned? negative chars).isSome ↔
      Digits (chars.takeWhile Numeral.isDigit) ∧ Exponent (chars.dropWhile Numeral.isDigit) := by
  rw [digits_iff (scanned_digits chars), ← exponent_isSome_iff, Numeral.unsigned?]
  generalize chars.takeWhile Numeral.isDigit = digits
  generalize chars.dropWhile Numeral.isDigit = behind at whole
  dsimp only
  split
  · exact absurd rfl (whole _)
  · cases digits <;> simp

/-- Digits and a point are taken as far as they go; what is left has to be an exponent. -/
theorem unsigned_isSome_iff (negative : Bool) (chars : List Char) :
    (Numeral.unsigned? negative chars).isSome ↔
      ∃ mantissa exponent, Mantissa mantissa ∧ Exponent exponent ∧ chars = mantissa ++ exponent := by
  constructor
  · intro read
    have together := (List.takeWhile_append_dropWhile (p := Numeral.isDigit) (l := chars)).symm
    by_cases pointed : ∃ rest, chars.dropWhile Numeral.isDigit = '.' :: rest
    · obtain ⟨rest, point⟩ := pointed
      obtain ⟨digits, exponent⟩ := (unsigned_pointed_iff negative point).mp read
      refine ⟨_, _, .pointed digits, exponent, ?_⟩
      rw [List.append_assoc, List.cons_append, List.takeWhile_append_dropWhile, ← point]
      exact together
    · obtain ⟨digits, exponent⟩ := (unsigned_whole_iff negative (not_exists.mp pointed)).mp read
      exact ⟨_, _, .whole digits, exponent, together⟩
  · rintro ⟨mantissa, exponent, front, behind, rfl⟩
    have stops := behind.stops
    cases front with
    | whole digits =>
      obtain ⟨taken, left⟩ := span_digits digits.ascii fun c first => (stops c first).1
      have whole : ∀ rest, (mantissa ++ exponent).dropWhile Numeral.isDigit ≠ '.' :: rest := by
        intro rest point
        rw [left] at point
        exact (stops '.' (by rw [point]; rfl)).2 rfl
      rw [unsigned_whole_iff negative whole, taken, left]
      exact ⟨digits, behind⟩
    | @pointed whole fraction digits =>
      have point : ∀ c, ('.' :: (fraction ++ exponent)).head? = some c → c.isDigit = false := by simp
      obtain ⟨before, rest⟩ := span_digits
        (fun c among => digits.ascii c (List.mem_append_left _ among)) point
      obtain ⟨taken, left⟩ := span_digits (fun c among => digits.ascii c
        (List.mem_append_right _ among)) fun c first => (stops c first).1
      rw [List.append_assoc, List.cons_append, unsigned_pointed_iff negative rest, before, taken,
        left]
      exact ⟨digits, behind⟩

end Scanning

section Signs

theorem Mantissa.head {mantissa : List Char} (front : Mantissa mantissa) :
    ∃ c rest, mantissa = c :: rest ∧ (c.isDigit = true ∨ c = '.') := by
  cases front with
  | whole digits =>
    obtain ⟨c, rest, rfl⟩ := List.exists_cons_of_ne_nil digits.nonempty
    exact ⟨c, rest, rfl, .inl (digits.ascii c List.mem_cons_self)⟩
  | @pointed whole fraction digits =>
    cases whole with
    | nil => exact ⟨'.', fraction, rfl, .inr rfl⟩
    | cons c rest => exact ⟨c, _, rfl, .inl (digits.ascii c (by simp))⟩

/-- A literal without a sign begins with no sign. -/
theorem Unsigned.splitSign {chars : List Char} (unsigned : Unsigned chars) :
    Numeral.splitSign chars = (false, chars) := by
  have unmarked : ∀ c rest, chars = c :: rest → c ≠ '-' ∧ c ≠ '+' := by
    intro c rest whole
    cases unsigned with
    | named name =>
      subst whole
      constructor <;> rintro rfl <;> simp at name
    | decimal front =>
      obtain ⟨first, _, rfl, begins⟩ := front.head
      obtain rfl : first = c := (List.cons.inj whole).1
      rcases begins with digit | rfl
      · constructor <;> rintro rfl <;> exact absurd digit (by decide)
      · decide
  unfold Numeral.splitSign
  split
  · exact absurd rfl (unmarked _ _ rfl).1
  · exact absurd rfl (unmarked _ _ rfl).2
  · rfl

theorem unsigned_iff (chars : List Char) :
    Unsigned chars ↔
      String.ofList (chars.map Char.toLower) ∈ ["inf", "infinity", "nan"] ∨
        ∃ mantissa exponent, Mantissa mantissa ∧ Exponent exponent ∧
          chars = mantissa ++ exponent := by
  have spelled : ∀ name : String,
      String.ofList (chars.map Char.toLower) = name ↔ chars.map Char.toLower = name.toList := by
    intro name
    rw [← String.toList_inj, String.toList_ofList]
  constructor
  · intro unsigned
    cases unsigned with
    | named name => exact .inl (by simpa [spelled] using name)
    | decimal front behind => exact .inr ⟨_, _, front, behind, rfl⟩
  · rintro (name | ⟨_, _, front, behind, rfl⟩)
    · exact .named (by simpa [spelled] using name)
    · exact .decimal front behind

/-- The sign stands in front, and everything behind it is a literal without one. -/
theorem float_of_split (chars : List Char) :
    (Numeral.float? chars).isSome ↔ Unsigned (Numeral.splitSign chars).2 := by
  rcases apart : Numeral.splitSign chars with ⟨negative, rest⟩
  rw [unsigned_iff, ← unsigned_isSome_iff negative]
  simp only [Numeral.float?, apart]
  split
  · rename_i named
    exact iff_of_true rfl (.inl (by simp only [List.mem_cons]; tauto))
  · split
    · rename_i nan
      exact iff_of_true rfl (.inl (by simp [nan]))
    · rename_i named nan
      refine (or_iff_right ?_).symm
      simp only [List.mem_cons, List.not_mem_nil, or_false]
      tauto

theorem float_isSome_iff (chars : List Char) :
    (Numeral.float? chars).isSome ↔ Literal chars := by
  rw [float_of_split]
  constructor
  · intro unsigned
    unfold Numeral.splitSign at unsigned
    split at unsigned
    · exact .minus unsigned
    · exact .plus unsigned
    · exact .plain unsigned
  · intro literal
    cases literal with
    | plain unsigned => rwa [unsigned.splitSign]
    | plus unsigned | minus unsigned => exact unsigned

end Signs

section Blanks

/-- What is small is no blank in capitals either. -/
theorem not_blank_of_toLower {c : Char} (small : isBlank c.toLower = false) : isBlank c = false := by
  by_contra blank
  have same : c.toLower = c := by
    refine dif_neg ?_
    rintro ⟨least, most⟩
    have capital : 65 ≤ c.toNat ∧ c.toNat ≤ 90 := ⟨least, most⟩
    simp [isBlank] at blank
    omega
  rw [same] at small
  exact blank small

theorem Mantissa.solid {mantissa : List Char} (front : Mantissa mantissa) :
    ∀ c ∈ mantissa, isBlank c = false := by
  intro c inside
  cases front with
  | whole digits => exact not_blank_of_isDigit (digits.ascii c inside)
  | pointed digits =>
    rcases List.mem_append.mp inside with before | behind
    · exact not_blank_of_isDigit (digits.ascii c (List.mem_append_left _ before))
    · rcases List.mem_cons.mp behind with rfl | after
      · decide
      · exact not_blank_of_isDigit (digits.ascii c (List.mem_append_right _ after))

theorem Exponent.solid {exponent : List Char} (behind : Exponent exponent) :
    ∀ c ∈ exponent, isBlank c = false := by
  intro c inside
  cases behind with
  | absent => cases inside
  | marked mark numeral =>
    rcases List.mem_cons.mp inside with rfl | among
    · rcases mark with rfl | rfl <;> decide
    · exact numeral.solid c among

theorem Unsigned.solid {chars : List Char} (unsigned : Unsigned chars) :
    ∀ c ∈ chars, isBlank c = false := by
  intro c inside
  cases unsigned with
  | named name =>
    have letters : ∀ name ∈ ["inf".toList, "infinity".toList, "nan".toList], ∀ c ∈ name,
        isBlank c = false := by simp [isBlank]
    exact not_blank_of_toLower (letters _ name _ (List.mem_map_of_mem inside))
  | decimal front behind =>
    exact (List.mem_append.mp inside).elim (front.solid c) (behind.solid c)

theorem Literal.tight {chars : List Char} (literal : Literal chars) : Tight chars := by
  apply tight_of_solid
  intro c inside
  cases literal with
  | plain unsigned => exact unsigned.solid c inside
  | plus unsigned | minus unsigned =>
    rcases List.mem_cons.mp inside with rfl | among
    · decide
    · exact unsigned.solid c among

end Blanks

/-- The texts that are read as a floating point number once they are trimmed. -/
theorem float_of_trimmed_iff (text : String) :
    (Numeral.float? (trimChars text.toList)).isSome ↔ Reads text := by
  rw [float_isSome_iff]
  constructor
  · intro literal
    exact ⟨_, literal, trimChars_surrounded _⟩
  · rintro ⟨chars, literal, around⟩
    rwa [trimChars_of_surrounded literal.tight around]

end ChatClient.Literals
