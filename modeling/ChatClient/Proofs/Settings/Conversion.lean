import ChatClient.Proofs.Json.Storing
import ChatClient.Proofs.Number.Literals
import ChatClient.Proofs.Settings.Clamping
import ChatClient.Proofs.Settings.Seed

/-! What settings can be made of. Each setting has its own kinds of values that it converts from,
told here by what the values are and not by how they are converted; settings are made of given
values exactly if each of them is of such a kind, and a token limit is then the integer that was
given. -/
namespace ChatClient.Conversion
open Json Records Bag ExactValue Numerals Seed Storing Trimming

section Kinds

/-- A number, or the text of one. -/
inductive Numeric : Value → Prop
  | number (n : Number) : Numeric (.number n)
  | text {content : String} : Literals.Reads content → Numeric (.string content)

/-- An integer: any number that is one, or the text of one of 64 signed bits. -/
inductive Whole : Value → Prop
  | number {number : Number} {n : ℤ} : Denotes (.number number) n → Whole (.number number)
  | text {content : String} {n : ℤ} : Spells content n → Fits n → Whole (.string content)

/-- A truth value, or its name with nothing but blanks around it. -/
inductive Truth : Value → Bool → Prop
  | bool (b : Bool) : Truth (.bool b) b
  | text {content : String} {b : Bool} :
    Surrounded content.toList (if b then "true" else "false").toList → Truth (.string content) b

/-- Whatever is held for the settings, by name, is of the kind that each of them needs. -/
structure Convertible (held : String → Option Value) : Prop where
  temperature : ∀ value, held "temperature" = some value → Numeric value
  topP : ∀ value, held "top_p" = some value → Numeric value
  maxTokens : ∀ value, held "max_tokens" = some value →
    value = .null ∨ ∃ n : UInt32, Denotes value n.toNat
  seed : ∀ value, held "random_seed" = some value → value = .null ∨ Whole value
  safePrompt : ∀ value, held "safe_prompt" = some value → ∃ b, Truth value b
  tools : ∀ value, held "tools" = some value → ∃ items, value = .array items ∧
    ∀ item ∈ items, ∃ tool, decodeValue FunctionDefinition.decode item = .ok tool

end Kinds

section Values
variable {value : Value}

theorem toFloat_text_iff (content : String) :
    (∃ x, (Scalar.text content).toFloat = .ok x) ↔ Literals.Reads content := by
  rw [← Literals.float_of_trimmed_iff, Scalar.toFloat]
  cases Numeral.float? (Text.trimChars content.toList) <;> simp

theorem sampling_ok_iff :
    (∃ x, Scalar.decodeWith Scalar.toFloat (Node.ofValue value) = .ok x) ↔ Numeric value := by
  simp only [decodeWith_ok_iff]
  constructor
  · rintro ⟨x, scalar, is, taken⟩
    cases value with
    | null | array | object => cases is
    | bool =>
      cases is
      cases taken
    | number n => exact .number n
    | string content =>
      cases is
      exact .text ((toFloat_text_iff content).mp ⟨x, taken⟩)
  · rintro (n | reads)
    · simp only [Scalar.ofValue?, Scalar.ofNumber]
      split
      · split <;> exact ⟨_, _, rfl, rfl⟩
      · exact ⟨_, _, rfl, rfl⟩
    · obtain ⟨x, taken⟩ := (toFloat_text_iff _).mpr reads
      exact ⟨x, _, rfl, taken⟩

theorem bool_of_trimmed_iff (content : String) (b : Bool) :
    Numeral.bool? (Text.trim content) = some b ↔
      Surrounded content.toList (if b then "true" else "false").toList := by
  have named : Numeral.bool? (Text.trim content) = some b ↔
      Text.trim content = if b then "true" else "false" := by
    unfold Numeral.bool?
    cases b <;> split <;> simp_all
  have tight : Tight (if b then "true" else "false").toList := by
    apply tight_of_solid
    cases b <;> simp [Text.isBlank]
  rw [named, ← String.toList_inj, Text.trim, String.toList_ofList, trimChars_eq_iff,
    and_iff_right tight]

theorem safe_ok_iff (b : Bool) :
    Scalar.decodeWith Scalar.toBool (Node.ofValue value) = .ok b ↔ Truth value b := by
  rw [decodeWith_ok_iff]
  have text : ∀ content, (Scalar.text content).toBool = .ok b ↔
      Surrounded content.toList (if b then "true" else "false").toList := by
    intro content
    rw [← bool_of_trimmed_iff, Scalar.toBool]
    cases Numeral.bool? (Text.trim content) <;> simp
  constructor
  · rintro ⟨scalar, is, taken⟩
    cases value with
    | null | array | object => cases is
    | bool =>
      cases is
      cases taken
      exact .bool b
    | number n =>
      simp only [Scalar.ofValue?, Scalar.ofNumber] at is
      split at is
      · split at is <;> cases is <;> cases taken
      · cases is
        cases taken
    | string content =>
      cases is
      exact .text ((text content).mp taken)
  · rintro (_ | around)
    · exact ⟨_, rfl, rfl⟩
    · exact ⟨_, rfl, (text _).mpr around⟩

theorem held_of_stored (stored : Stored value) : Held value := by
  cases stored with
  | int low high => exact ⟨low, high⟩
  | null | bool | float | string | array | object => trivial

/-- A value is taken for a seed if it is an integer, and a text only if it has 64 signed bits. -/
theorem takes_iff_whole (held : Held value) : (∃ k, Takes value k) ↔ Whole value := by
  constructor
  · rintro ⟨k, takes⟩
    rcases denotes_of_takes takes with denotes | ⟨number, n, rfl, denotes, -⟩
    · cases denotes with
      | int => exact .number (.int _)
      | float finite is => exact .number (.float finite is)
      | text spelled => exact .text spelled (fits_toInt k)
    · exact .number denotes
  · rintro (denotes | ⟨spelled, fits⟩)
    · rename_i number n
      by_cases fits : Fits n
      · exact ⟨Int64.ofInt n, (takes_of_fits denotes fits _).mpr (toInt_ofInt fits)⟩
      · exact number_taken held denotes fits
    · exact ⟨_, (takes_of_fits (.text spelled) fits _).mpr (toInt_ofInt fits)⟩

theorem nearest_of_far {n : ℤ} (far : 2 ^ 63 ≤ n ∨ n ≤ -2 ^ 63) :
    nearest n = Int64.minValue.toInt ∨ nearest n = Int64.maxValue.toInt := by
  unfold nearest
  rw [Int64.toInt_minValue, Int64.toInt_maxValue]
  omega

/-- A number beyond the range is taken for one of the ends. -/
theorem end_of_beyond {number : Number} {n : ℤ} {k : Int64} (denotes : Denotes (.number number) n)
    (beyond : ¬Fits n) (takes : Takes (.number number) k) :
    k.toInt = Int64.minValue.toInt ∨ k.toInt = Int64.maxValue.toInt := by
  have far : 2 ^ 63 ≤ n ∨ n < -2 ^ 63 := by
    unfold Fits at beyond
    rw [Int64.toInt_minValue, Int64.toInt_maxValue] at beyond
    omega
  cases denotes with
  | float _ is =>
    obtain ⟨-, m, also, same⟩ := (takes_float_iff _ k).mp takes
    rw [same, ← integer_unique is also]
    exact nearest_of_far (by omega)
  | int =>
    -- A great integer is rounded first, but not back over the end of the range.
    obtain ⟨finite, m, is, same⟩ := (takes_float_iff _ k).mp ((takes_great_iff beyond k).mp takes)
    have nonzero : n ≠ 0 := by omega
    have long : 63 ≤ n.natAbs.log2 := (Nat.le_log2 (Int.natAbs_ne_zero.mpr nonzero)).mpr (by omega)
    obtain ⟨size, great, rounded⟩ := exact_ofInt nonzero (by omega : 52 ≤ n.natAbs.log2) (by decide)
      finite
    have least : (2 : ℚ) ^ 63 ≤ size := (pow_le_pow_right₀ one_le_two long).trans great
    rw [same]
    apply nearest_of_far
    rw [is] at rounded
    split at rounded
    · right
      have below : (m : ℚ) ≤ -2 ^ 63 := by rw [rounded]; exact neg_le_neg least
      exact_mod_cast below
    · left
      have above : (2 : ℚ) ^ 63 ≤ m := by rw [rounded]; exact least
      exact_mod_cast above

theorem toCount_ok_iff (scalar : Scalar) (n : UInt32) :
    scalar.toCount = .ok n ↔ ∃ k, scalar.toInteger = .ok k ∧ k.toInt = n.toNat := by
  unfold Scalar.toCount
  cases scalar.toInteger with
  | error refusal => simp [bind, Except.bind]
  | ok k =>
    simp only [bind, Except.bind, Except.ok.injEq, exists_eq_left']
    have size := n.toNat_lt_size
    split
    · rename_i within
      have small : k.toInt.toNat < UInt32.size := by omega
      rw [show (pure (UInt32.ofNat k.toInt.toNat) : Except Scalar.Refusal UInt32) = .ok _ from rfl,
        Except.ok.injEq, ← UInt32.toNat_inj, UInt32.toNat_ofNat_of_lt' small]
      omega
    · rename_i beyond
      refine iff_of_false (by simp [throw, throwThe, MonadExceptOf.throw]) ?_
      omega

/-- A value is taken for a token limit if it denotes it. -/
theorem count_ok_iff (n : UInt32) :
    Scalar.decodeWith Scalar.toCount (Node.ofValue value) = .ok n ↔ Denotes value n.toNat := by
  have taken : Scalar.decodeWith Scalar.toCount (Node.ofValue value) = .ok n ↔
      ∃ k, Takes value k ∧ k.toInt = n.toNat := by
    simp only [decodeWith_ok_iff, toCount_ok_iff, Takes]
    tauto
  have size : (n.toNat : ℤ) < 2 ^ 32 := by exact_mod_cast n.toNat_lt_size
  rw [taken]
  constructor
  · rintro ⟨k, takes, same⟩
    rw [← same]
    rcases denotes_of_takes takes with denotes | ⟨number, m, rfl, denotes, beyond⟩
    · exact denotes
    · have ends := end_of_beyond denotes beyond takes
      rw [Int64.toInt_minValue, Int64.toInt_maxValue] at ends
      omega
  · intro denotes
    have fits : Fits n.toNat := by
      unfold Fits
      rw [Int64.toInt_minValue, Int64.toInt_maxValue]
      omega
    exact ⟨_, (takes_of_fits denotes fits _).mpr (toInt_ofInt fits), toInt_ofInt fits⟩

end Values

section Settings
variable {held : String → Option Value}

theorem readOr_ok_iff {α : Type} (decoder : Decoder α) (default : α) (given : Option Value) :
    (∃ a, readOr decoder default given = .ok a) ↔
      ∀ value, given = some value → ∃ a, decoder (Node.ofValue value) = .ok a := by
  cases given <;> simp [readOr]

theorem optional_read_iff {α : Type} (decoder : Decoder α) (value : Value) :
    (∃ found, Decode.optional decoder (Node.ofValue value) = .ok found) ↔
      value = .null ∨ ∃ a, decoder (Node.ofValue value) = .ok a := by
  simp only [optional_ok_iff]
  constructor
  · rintro ⟨_, ⟨null, -⟩ | ⟨-, a, read, -⟩⟩
    · exact .inl null
    · exact .inr ⟨a, read⟩
  · rintro (null | ⟨a, read⟩)
    · exact ⟨none, .inl ⟨null, rfl⟩⟩
    · by_cases null : value = .null
      · exact ⟨none, .inl ⟨null, rfl⟩⟩
      · exact ⟨some a, .inr ⟨null, a, read, rfl⟩⟩

theorem exists_forall₂ {α β : Type} {related : α → β → Prop} {items : List α} :
    (∃ list, List.Forall₂ related items list) ↔ ∀ item ∈ items, ∃ b, related item b := by
  induction items with
  | nil => simp
  | cons item rest ih =>
    simp only [List.forall_mem_cons, ← ih, List.forall₂_cons_left_iff]
    constructor
    · rintro ⟨_, b, list, first, others, rfl⟩
      exact ⟨⟨b, first⟩, list, others⟩
    · rintro ⟨⟨b, first⟩, list, others⟩
      exact ⟨b :: list, b, list, first, others, rfl⟩

theorem tools_ok_iff {value : Value} :
    (∃ tools, Decode.list FunctionDefinition.decode (Node.ofValue value) = .ok tools) ↔
      ∃ items, value = .array items ∧
        ∀ item ∈ items, ∃ tool, decodeValue FunctionDefinition.decode item = .ok tool := by
  simp only [list_ok_iff, decodeValue_ok_iff, ← exists_forall₂]
  tauto

theorem seed_read_iff {value : Value} (whole : Held value) :
    (∃ found, Decode.optional (Scalar.decodeWith Scalar.toInteger) (Node.ofValue value) = .ok found) ↔
      value = .null ∨ Whole value := by
  simp only [optional_read_iff, decodeWith_ok_iff, ← takes_iff_whole whole, Takes]

/-- Settings can be made if everything that is held for them is of the kind that is needed. -/
theorem makes_iff_convertible
    (whole : ∀ value, held "random_seed" = some value → Held value) :
    (∃ settings, Makes held settings) ↔ Convertible held := by
  have sampling := fun name => readOr_ok_iff (Scalar.decodeWith Scalar.toFloat)
    Settings.defaultSampling (held name)
  have maxTokens := readOr_ok_iff (Decode.optional (Scalar.decodeWith Scalar.toCount)) none
    (held "max_tokens")
  have seed := readOr_ok_iff (Decode.optional (Scalar.decodeWith Scalar.toInteger)) none
    (held "random_seed")
  have safePrompt := readOr_ok_iff (Scalar.decodeWith Scalar.toBool) false (held "safe_prompt")
  have tools := readOr_ok_iff (Decode.list FunctionDefinition.decode) [] (held "tools")
  simp only [sampling_ok_iff] at sampling
  simp only [optional_read_iff, count_ok_iff] at maxTokens
  simp only [safe_ok_iff] at safePrompt
  simp only [tools_ok_iff] at tools
  constructor
  · rintro ⟨settings, makes⟩
    exact {
      temperature := (sampling "temperature").mp ⟨_, makes.temperature⟩
      topP := (sampling "top_p").mp ⟨_, makes.topP⟩
      maxTokens := maxTokens.mp ⟨_, makes.maxTokens⟩
      seed := fun value given =>
        (seed_read_iff (whole value given)).mp (seed.mp ⟨_, makes.seed⟩ value given)
      safePrompt := safePrompt.mp ⟨_, makes.safePrompt⟩
      tools := tools.mp ⟨_, makes.tools⟩ }
  · intro convertible
    obtain ⟨_, temperature⟩ := (sampling "temperature").mpr convertible.temperature
    obtain ⟨_, topP⟩ := (sampling "top_p").mpr convertible.topP
    obtain ⟨_, limit⟩ := maxTokens.mpr convertible.maxTokens
    obtain ⟨_, random⟩ := seed.mpr fun value given =>
      (seed_read_iff (whole value given)).mpr (convertible.seed value given)
    obtain ⟨_, safe⟩ := safePrompt.mpr convertible.safePrompt
    obtain ⟨_, offered⟩ := tools.mpr convertible.tools
    exact ⟨⟨_, _, _, _, _, _⟩, temperature, topP, limit, random, safe, offered⟩

/-- What settings are that were made of what is held for them: the token limit is the integer that
it was given as, and what nothing is held for has its default. -/
structure Exact (held : String → Option Value) (settings : Settings) : Prop where
  limit : ∀ value, held "max_tokens" = some value → (value = .null ∧ settings.maxTokens = none) ∨
    ∃ n : UInt32, settings.maxTokens = some n ∧ Denotes value n.toNat
  temperature : held "temperature" = none → settings.temperature = Clamping.one
  topP : held "top_p" = none → settings.topP = Clamping.one
  maxTokens : held "max_tokens" = none → settings.maxTokens = none
  seed : held "random_seed" = none → settings.seed = none
  safePrompt : held "safe_prompt" = none → settings.safePrompt = false
  tools : held "tools" = none → settings.tools = []

theorem exact_of_makes {settings : Settings} (makes : Makes held settings) :
    Exact held settings := by
  have left : ∀ {α : Type} {decoder : Decoder α} {default a : α} {given : Option Value},
      readOr decoder default given = .ok a → given = none → a = default := by
    rintro _ _ _ _ _ read rfl
    exact (Except.ok.inj read).symm
  have one : Settings.defaultSampling = Clamping.one := Clamping.sampling_ends.2
  refine ⟨?_, fun absent => (left makes.temperature absent).trans one,
    fun absent => (left makes.topP absent).trans one, left makes.maxTokens, left makes.seed,
    left makes.safePrompt, left makes.tools⟩
  intro value given
  have read := makes.maxTokens
  rw [given, readOr, optional_ok_iff] at read
  rcases read with null | ⟨-, n, read, is⟩
  · exact .inl null
  · exact .inr ⟨n, is, (count_ok_iff n).mp read⟩

end Settings

end ChatClient.Conversion
