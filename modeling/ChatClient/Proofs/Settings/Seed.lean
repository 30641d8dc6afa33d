import ChatClient.Proofs.Number.ExactValue
import ChatClient.Proofs.Number.Numerals
import ChatClient.Proofs.Settings.Bag

/-! What becomes of a seed in a bag of settings. A seed is taken as the integer that it denotes, or
the bag is refused, except where a number denotes an integer beyond 64 signed bits: such a number is
taken all the same, as another integer, while a text that denotes the same integer is refused. -/

namespace ChatClient.Seed
open Json Records Bag ExactValue Numerals

/-- A JSON value denotes an integer: a number that equals it, or a text that spells it. -/
inductive Denotes : Value → ℤ → Prop
  | int (n : ℤ) : Denotes (.number (.int n)) n
  | float {x : Binary64} {n : ℤ} : x.isFinite → exact x = n → Denotes (.number (.float x)) n
  | text {content : String} {n : ℤ} : Spells content n → Denotes (.string content) n

/-- An integer of 64 signed bits. -/
def Fits (n : ℤ) : Prop :=
  Int64.minValue.toInt ≤ n ∧ n ≤ Int64.maxValue.toInt

/-- Integers in a JSON value have 64 bits, with a sign or without one. -/
def Held : Value → Prop
  | .number (.int n) => Int64.minValue.toInt ≤ n ∧ n < UInt64.size
  | _ => True

/-- Two bags come to the same settings, or neither comes to any. -/
def SameOutcome (first second : Except ClientError Settings) : Prop :=
  (∃ settings, first = .ok settings ∧ second = .ok settings) ∨
    ∃ error other, first = .error (.invalidSettings error) ∧
      second = .error (.invalidSettings other)

/-- No bag changes this seed, and another spelling of it has the same outcome. -/
structure Kept (seed : Value) : Prop where
  exact : ∀ fields settings k, fields.lookup "random_seed" = some seed →
    Settings.ofBag (.object fields) = .ok settings → settings.seed = some k →
      Denotes seed k.toInt
  refused : ∀ fields number, fields.lookup "random_seed" = some seed → seed = .number number →
    (∀ k : Int64, ¬Denotes seed k.toInt) →
      ∃ error, Settings.ofBag (.object fields) = .error (.invalidSettings error)
  alike : ∀ fields other n, fields.lookup "random_seed" = some seed → Held other →
    Denotes seed n → Denotes other n →
      SameOutcome (Settings.ofBag (.object fields))
        (Settings.ofBag (.object (withValue "random_seed" other fields)))

/-- A number that a JSON value can hold denotes the same integer as the seed, and that integer has
more than 64 signed bits. -/
def Overflows (seed : Value) : Prop :=
  ∃ number n, Held (.number number) ∧ Denotes (.number number) n ∧ Denotes seed n ∧ ¬Fits n

theorem Denotes.unique {value : Value} {m n : ℤ} (first : Denotes value m)
    (second : Denotes value n) : m = n := by
  cases first with
  | int => cases second; rfl
  | float _ is =>
    cases second with
    | float _ also => exact integer_unique is also
  | text spelled =>
    cases second with
    | text also => exact spelled.unique also

theorem Denotes.ne_null {value : Value} {n : ℤ} (denotes : Denotes value n) : value ≠ .null := by
  rintro rfl
  cases denotes

theorem fits_toInt (k : Int64) : Fits k.toInt :=
  ⟨by simpa using k.le_toInt, by simpa using Int64.toInt_le k⟩

theorem toInt_ofInt {n : ℤ} (fits : Fits n) : (Int64.ofInt n).toInt = n := by
  obtain ⟨low, high⟩ := fits
  rw [Int64.toInt_minValue] at low
  rw [Int64.toInt_maxValue] at high
  exact Int64.toInt_ofInt_of_le (by omega) (by omega)

section Conversion

/-- A value converts to a seed. -/
def Takes (value : Value) (k : Int64) : Prop :=
  ∃ scalar, Scalar.ofValue? value = some scalar ∧ scalar.toInteger = .ok k

/-- The integer of 64 signed bits that is nearest. -/
def nearest (n : ℤ) : ℤ :=
  max Int64.minValue.toInt (min Int64.maxValue.toInt n)

theorem fits_nearest (n : ℤ) : Fits (nearest n) := by
  have ordered : Int64.minValue.toInt ≤ Int64.maxValue.toInt := by decide
  unfold Fits nearest
  omega

theorem nearest_of_fits {n : ℤ} (fits : Fits n) : nearest n = n := by
  obtain ⟨low, high⟩ := fits
  unfold nearest
  omega

theorem eq_ofInt_iff {n : ℤ} (fits : Fits n) (k : Int64) : Int64.ofInt n = k ↔ k.toInt = n := by
  rw [← Int64.toInt_inj, toInt_ofInt fits, eq_comm]

theorem takes_int_iff {n : ℤ} (fits : Fits n) (k : Int64) :
    Takes (.number (.int n)) k ↔ k.toInt = n := by
  have small : Scalar.ofNumber (.int n) = .int (Int64.ofInt n) := if_pos fits
  simp [Takes, Scalar.ofValue?, small, Scalar.toInteger, eq_ofInt_iff fits]

theorem takes_float_iff (x : Binary64) (k : Int64) :
    Takes (.number (.float x)) k ↔ x.isFinite ∧ ∃ n : ℤ, exact x = n ∧ k.toInt = nearest n := by
  have came : Takes (.number (.float x)) k ↔ (Scalar.float x).toInteger = .ok k := by
    simp [Takes, Scalar.ofValue?, Scalar.ofNumber]
  rw [came, Scalar.toInteger]
  split
  · rename_i integral
    obtain ⟨finite, n, is⟩ := (isIntegral_iff x).mp integral
    have number : x.isNaN = false := by
      simp only [Binary.isFinite, Binary.isNaN, decide_eq_true_eq, decide_eq_false_iff_not] at finite ⊢
      omega
    have within : x.truncateWithin Int64.minValue.toInt Int64.maxValue.toInt = nearest n := by
      simp [Binary.truncateWithin, number, finite, truncate_of_exact is, nearest]
    rw [within, Except.ok.injEq, eq_ofInt_iff (fits_nearest n)]
    constructor
    · intro same
      exact ⟨finite, n, is, same⟩
    · rintro ⟨-, m, also, same⟩
      rw [same, integer_unique is also]
  · rename_i fraction
    constructor
    · intro taken
      cases taken
    · rintro ⟨finite, n, is, -⟩
      exact absurd ((isIntegral_iff x).mpr ⟨finite, n, is⟩) fraction

/-- An integer out of range is taken as the double that it rounds to. -/
theorem takes_great_iff {n : ℤ} (beyond : ¬Fits n) (k : Int64) :
    Takes (.number (.int n)) k ↔ Takes (.number (.float (Binary.ofInt .double n))) k := by
  have great : Scalar.ofNumber (.int n) = .float (Binary.ofInt .double n) := if_neg beyond
  rw [Takes, Takes, Scalar.ofValue?, great]
  rfl

theorem takes_text_iff (content : String) (k : Int64) :
    Takes (.string content) k ↔ Spells content k.toInt := by
  have came : Takes (.string content) k ↔ (Scalar.text content).toInteger = .ok k := by
    simp [Takes, Scalar.ofValue?]
  rw [came, ← integer_of_trimmed_iff, Scalar.toInteger]
  cases Numeral.integer? (Text.trimChars content.toList) with
  | none => simp
  | some n =>
    rw [Option.some.injEq]
    by_cases fits : Fits n
    · have taken := eq_ofInt_iff fits k
      obtain ⟨low, high⟩ := fits
      simp only [low, high, and_self, ↓reduceIte, Except.ok.injEq]
      rw [taken, eq_comm]
    · have other : n ≠ k.toInt := by
        rintro rfl
        exact fits (fits_toInt k)
      have beyond : ¬(Int64.minValue.toInt ≤ n ∧ n ≤ Int64.maxValue.toInt) := fits
      simp only [beyond, ↓reduceIte, other, reduceCtorEq]

theorem takes_of_fits {value : Value} {n : ℤ} (denotes : Denotes value n) (fits : Fits n)
    (k : Int64) : Takes value k ↔ k.toInt = n := by
  cases denotes with
  | int => exact takes_int_iff fits k
  | @float x _ finite is =>
    rw [takes_float_iff]
    constructor
    · rintro ⟨-, m, also, same⟩
      rw [same, ← integer_unique is also, nearest_of_fits fits]
    · intro same
      exact ⟨finite, n, is, by rw [same, nearest_of_fits fits]⟩
  | text spelled =>
    rw [takes_text_iff]
    constructor
    · intro also
      exact also.unique spelled
    · rintro rfl
      exact spelled

/-- What a value is taken as is what it denotes, unless it is a number out of range. -/
theorem denotes_of_takes {value : Value} {k : Int64} (takes : Takes value k) :
    Denotes value k.toInt ∨ ∃ number n, value = .number number ∧ Denotes value n ∧ ¬Fits n := by
  cases value with
  | null | array | object =>
    obtain ⟨_, is, -⟩ := takes
    cases is
  | bool =>
    obtain ⟨_, is, taken⟩ := takes
    cases is
    cases taken
  | string content => exact .inl (.text ((takes_text_iff content k).mp takes))
  | number number =>
    obtain ⟨n, denotes⟩ : ∃ n, Denotes (.number number) n := by
      cases number with
      | int n => exact ⟨n, .int n⟩
      | float x =>
        obtain ⟨finite, n, is, -⟩ := (takes_float_iff x k).mp takes
        exact ⟨n, .float finite is⟩
    by_cases fits : Fits n
    · left
      rwa [(takes_of_fits denotes fits k).mp takes]
    · exact .inr ⟨number, n, rfl, denotes, fits⟩

/-- A value that is no number is taken for no integer out of range. -/
theorem refused_of_beyond {value : Value} {n : ℤ} (denotes : Denotes value n) (beyond : ¬Fits n)
    (text : ∀ number, value ≠ .number number) (k : Int64) : ¬Takes value k := by
  cases denotes with
  | int => exact absurd rfl (text _)
  | float => exact absurd rfl (text _)
  | text spelled =>
    intro taken
    have same := ((takes_text_iff _ k).mp taken).unique spelled
    exact beyond (same ▸ fits_toInt k)

/-- An integer between the ranges of 64 bits with and without a sign is rounded, but not to a
fraction. -/
theorem isIntegral_of_beyond {n : ℤ} (held : Held (.number (.int n))) (beyond : ¬Fits n) :
    (Binary.ofInt .double n).isIntegral := by
  obtain ⟨low, high⟩ := held
  have great : Int64.maxValue.toInt < n := by
    by_contra most
    exact beyond ⟨low, by omega⟩
  rw [Int64.toInt_maxValue] at great
  have size : 2 ^ 63 ≤ n.natAbs ∧ n.natAbs < 2 ^ 64 := by
    simp only [UInt64.size] at high
    omega
  have nonzero : n.natAbs ≠ 0 := by omega
  have within : n.natAbs.log2 < 64 := (Nat.log2_lt nonzero).mpr size.2
  have long : 52 ≤ n.natAbs.log2 := (Nat.le_log2 nonzero).mpr (by omega)
  have positive : n ≠ 0 := Int.natAbs_ne_zero.mp nonzero
  exact isIntegral_ofInt positive long (by decide) (isFinite_ofInt_double positive long within)

/-- A number out of range is taken for some integer. -/
theorem number_taken {number : Number} {n : ℤ} (held : Held (.number number))
    (denotes : Denotes (.number number) n) (beyond : ¬Fits n) : ∃ k, Takes (.number number) k := by
  have taken : ∀ x : Binary64, x.isIntegral → ∃ k, Takes (.number (.float x)) k := by
    intro x integral
    obtain ⟨finite, m, is⟩ := (isIntegral_iff x).mp integral
    exact ⟨Int64.ofInt (nearest m), (takes_float_iff x _).mpr
      ⟨finite, m, is, toInt_ofInt (fits_nearest m)⟩⟩
  cases denotes with
  | float finite is => exact taken _ ((isIntegral_iff _).mpr ⟨finite, n, is⟩)
  | int =>
    simp only [takes_great_iff beyond]
    exact taken _ (isIntegral_of_beyond held beyond)

theorem decode_ok_iff (value : Value) (found : Option Int64) :
    Decode.optional (Scalar.decodeWith Scalar.toInteger) (Node.ofValue value) = .ok found ↔
      (value = .null ∧ found = none) ∨ ∃ k, found = some k ∧ Takes value k := by
  rw [optional_ok_iff]
  simp only [decodeWith_ok_iff]
  constructor
  · rintro (nothing | ⟨-, k, takes, rfl⟩)
    · exact .inl nothing
    · exact .inr ⟨k, rfl, takes⟩
  · rintro (nothing | ⟨k, rfl, takes⟩)
    · exact .inl nothing
    · refine .inr ⟨?_, k, takes, rfl⟩
      rintro rfl
      obtain ⟨_, is, -⟩ := takes
      cases is

end Conversion

section Bags
variable {fields : List (String × Value)} {seed other : Value} {settings : Settings}

theorem given_seed (fields : List (String × Value)) :
    given slots "random_seed" fields = fields.lookup "random_seed" :=
  given_own (own_key_iff (by decide) (by decide)) fields

theorem takes_of_read (held : fields.lookup "random_seed" = some seed)
    (reads : Reads fields settings) :
    (seed = .null ∧ settings.seed = none) ∨ ∃ k, settings.seed = some k ∧ Takes seed k := by
  have read := reads.seed
  rw [given_seed, held] at read
  exact (decode_ok_iff seed settings.seed).mp read

/-- A bag is read alike with another seed that converts alike. -/
theorem reads_withValue_iff (held : fields.lookup "random_seed" = some seed)
    (something : seed ≠ .null) (also : other ≠ .null) (same : ∀ k, Takes other k ↔ Takes seed k) :
    Reads (withValue "random_seed" other fields) settings ↔ Reads fields settings := by
  have alike : ∀ found,
      Decode.optional (Scalar.decodeWith Scalar.toInteger) (Node.ofValue other) = .ok found ↔
        Decode.optional (Scalar.decodeWith Scalar.toInteger) (Node.ofValue seed) = .ok found := by
    simp only [decode_ok_iff, something, also, same, implies_true]
  have own : fieldOf? slots "random_seed" = some "random_seed" := by decide
  rw [reads_iff, reads_iff, named_withValue, given_seed, given_seed, lookup_withValue held, held]
  simp only [readOr, alike]
  simp [given_withValue, own]

theorem sameOutcome_of_iff {first second : Value}
    (same : ∀ settings, Settings.ofBag first = .ok settings ↔ Settings.ofBag second = .ok settings) :
    SameOutcome (Settings.ofBag first) (Settings.ofBag second) := by
  by_cases read : ∃ settings, Settings.ofBag first = .ok settings
  · obtain ⟨settings, ok⟩ := read
    exact .inl ⟨settings, ok, (same settings).mp ok⟩
  · obtain ⟨error, refused⟩ := ofBag_refused first fun settings ok => read ⟨settings, ok⟩
    obtain ⟨other, also⟩ :=
      ofBag_refused second fun settings ok => read ⟨settings, (same settings).mpr ok⟩
    exact .inr ⟨error, other, refused, also⟩

theorem ofBag_alone {k : Int64} (takes : Takes seed k) :
    Settings.ofBag (.object [("random_seed", seed)]) =
      .ok { Settings.default with seed := some k } := by
  have own : fieldOf? slots "random_seed" = some "random_seed" := by decide
  have read := (decode_ok_iff seed (some k)).mpr (.inr ⟨k, rfl, takes⟩)
  rw [ofBag_object_ok_iff]
  constructor <;> simp [named, given, own, readOr, Settings.default, read]

end Bags

section Keeping
variable {seed other : Value}

/-- Within the range a value is taken as what it denotes. -/
theorem denotes_of_within (within : ¬Overflows seed) (held : Held seed) {k : Int64}
    (takes : Takes seed k) : Denotes seed k.toInt := by
  rcases denotes_of_takes takes with denotes | ⟨number, n, rfl, denotes, beyond⟩
  · exact denotes
  · exact absurd ⟨number, n, held, denotes, denotes, beyond⟩ within

theorem takes_alike (within : ¬Overflows seed) (held : Held seed) (also : Held other) {n : ℤ}
    (denotes : Denotes seed n) (same : Denotes other n) (k : Int64) :
    Takes other k ↔ Takes seed k := by
  by_cases fits : Fits n
  · rw [takes_of_fits denotes fits, takes_of_fits same fits]
  · have text : ∀ number, seed ≠ .number number := by
      rintro number rfl
      exact within ⟨number, n, held, denotes, denotes, fits⟩
    have textToo : ∀ number, other ≠ .number number := by
      rintro number rfl
      exact within ⟨number, n, also, same, denotes, fits⟩
    exact iff_of_false (refused_of_beyond same fits textToo k)
      (refused_of_beyond denotes fits text k)

theorem kept_of_within (held : Held seed) (within : ¬Overflows seed) : Kept seed where
  exact := by
    intro fields settings k there ok taken
    rcases takes_of_read there ((ofBag_object_ok_iff _ _).mp ok) with ⟨-, none⟩ | ⟨m, is, takes⟩
    · rw [none] at taken
      cases taken
    · rw [is, Option.some.injEq] at taken
      exact taken ▸ denotes_of_within within held takes
  refused := by
    rintro fields number there rfl nothing
    apply ofBag_refused
    intro settings ok
    rcases takes_of_read there ((ofBag_object_ok_iff _ _).mp ok) with ⟨null, -⟩ | ⟨k, -, takes⟩
    · cases null
    · exact nothing k (denotes_of_within within held takes)
  alike := by
    intro fields other n there also denotes same
    apply sameOutcome_of_iff
    intro settings
    rw [ofBag_object_ok_iff, ofBag_object_ok_iff]
    exact (reads_withValue_iff there denotes.ne_null same.ne_null
      (takes_alike within held also denotes same)).symm

theorem within_of_kept (held : Held seed) (kept : Kept seed) : ¬Overflows seed := by
  rintro ⟨number, n, also, same, denotes, beyond⟩
  obtain ⟨k, takes⟩ := number_taken also same beyond
  by_cases text : ∀ number, seed ≠ .number number
  · have alike := kept.alike [("random_seed", seed)] (.number number) n rfl also denotes same
    have instead : withValue "random_seed" (.number number) [("random_seed", seed)] =
        [("random_seed", .number number)] := by simp [withValue]
    rw [instead, ofBag_alone takes] at alike
    obtain ⟨settings, ok, -⟩ | ⟨_, _, -, refused⟩ := alike
    · rcases takes_of_read rfl ((ofBag_object_ok_iff _ _).mp ok) with ⟨null, -⟩ | ⟨m, -, taken⟩
      · exact denotes.ne_null null
      · exact refused_of_beyond denotes beyond text m taken
    · cases refused
  · obtain ⟨own, is⟩ := not_forall_not.mp text
    subst is
    obtain ⟨k, takes⟩ := number_taken held denotes beyond
    have exact := kept.exact _ _ k rfl (ofBag_alone takes) rfl
    exact beyond (exact.unique denotes ▸ fits_toInt k)

end Keeping

/-- A seed is kept unless a number denotes it and it is out of range. -/
theorem seed_kept_iff_not_overflows (seed : Value) (held : Held seed) :
    Kept seed ↔ ¬Overflows seed :=
  ⟨within_of_kept held, kept_of_within held⟩

theorem greatest_seed_kept :
    Held (.number (.int 9223372036854775807)) ∧ Kept (.number (.int 9223372036854775807)) := by
  have held : Held (.number (.int 9223372036854775807)) := ⟨by decide, by decide⟩
  refine ⟨held, (seed_kept_iff_not_overflows _ held).mpr ?_⟩
  rintro ⟨_, n, -, -, denotes, beyond⟩
  cases denotes
  exact beyond ⟨by decide, by decide⟩

/-- The first number beyond the range is taken as the last one within; as a text it is refused. -/
theorem seed_beyond_greatest_changed :
    (Settings.ofBag (.object [("random_seed", .number (.int 9223372036854775808))])).toOption.map
        (·.seed) = some (some Int64.maxValue) ∧
      ¬Denotes (.number (.int 9223372036854775808)) Int64.maxValue.toInt ∧
      (Settings.ofBag (.object [("random_seed", .string "9223372036854775808")])).toOption.map
        (·.seed) = none ∧
      ¬Kept (.number (.int 9223372036854775808)) := by
  refine ⟨by decide +kernel, ?_, by decide +kernel, ?_⟩
  · intro denotes
    cases denotes
  · intro kept
    have held : Held (.number (.int 9223372036854775808)) := ⟨by decide, by decide⟩
    refine within_of_kept held kept ⟨_, _, held, .int _, .int _, ?_⟩
    rintro ⟨-, most⟩
    exact absurd most (by decide)

end ChatClient.Seed
