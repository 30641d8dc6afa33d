import Mathlib.Tactic.MkIffOfInductiveProp
import ChatClient.Proofs.Json.Layouts
import ChatClient.Settings

/-! What a bag of settings is read as. Each setting comes from the value under its key alone, and the
settings are taken if every value converts and no setting is named twice. -/

namespace ChatClient.Bag
open Json Records Layouts

/-- The settings that a bag may name. -/
def slots : List Slot :=
  [slot "temperature", slot "top_p", slot "max_tokens", slot "random_seed",
    ⟨"safe_prompt", ["safe_mode"]⟩, slot "tools"]

/-- The bag with these fields is read as these settings, one setting at a time. -/
@[mk_iff]
structure Reads (fields : List (String × Value)) (settings : Settings) : Prop where
  once : (named slots fields).Nodup
  temperature : readOr (Scalar.decodeWith Scalar.toFloat) Settings.defaultSampling
    (given slots "temperature" fields) = .ok settings.temperature
  topP : readOr (Scalar.decodeWith Scalar.toFloat) Settings.defaultSampling
    (given slots "top_p" fields) = .ok settings.topP
  maxTokens : readOr (Decode.optional (Scalar.decodeWith Scalar.toCount)) none
    (given slots "max_tokens" fields) = .ok settings.maxTokens
  seed : readOr (Decode.optional (Scalar.decodeWith Scalar.toInteger)) none
    (given slots "random_seed" fields) = .ok settings.seed
  safePrompt : readOr (Scalar.decodeWith Scalar.toBool) false
    (given slots "safe_prompt" fields) = .ok settings.safePrompt
  tools : readOr (Decode.list FunctionDefinition.decode) []
    (given slots "tools" fields) = .ok settings.tools

theorem ofBag_ok_iff (bag : Value) (present : bag.isNull = false) (settings : Settings) :
    Settings.ofBag bag = .ok settings ↔ Settings.decode (Node.ofValue bag) = .ok settings := by
  simp only [Settings.ofBag, present, Bool.false_eq_true, ↓reduceIte, decodeValue]
  cases Settings.decode (Node.ofValue bag) <;> simp

/-- Whatever keeps a bag from being read, the failure says that the settings are invalid. -/
theorem ofBag_refused (bag : Value) (never : ∀ settings, Settings.ofBag bag ≠ .ok settings) :
    ∃ error, Settings.ofBag bag = .error (.invalidSettings error) := by
  unfold Settings.ofBag at never ⊢
  split
  · simp_all
  · split
    · simp_all
    · exact ⟨_, rfl⟩

/-- These settings are made of what is held for each of them, by name. -/
structure Makes (held : String → Option Value) (settings : Settings) : Prop where
  temperature : readOr (Scalar.decodeWith Scalar.toFloat) Settings.defaultSampling
    (held "temperature") = .ok settings.temperature
  topP : readOr (Scalar.decodeWith Scalar.toFloat) Settings.defaultSampling
    (held "top_p") = .ok settings.topP
  maxTokens : readOr (Decode.optional (Scalar.decodeWith Scalar.toCount)) none
    (held "max_tokens") = .ok settings.maxTokens
  seed : readOr (Decode.optional (Scalar.decodeWith Scalar.toInteger)) none
    (held "random_seed") = .ok settings.seed
  safePrompt : readOr (Scalar.decodeWith Scalar.toBool) false
    (held "safe_prompt") = .ok settings.safePrompt
  tools : readOr (Decode.list FunctionDefinition.decode) [] (held "tools") = .ok settings.tools

/-- Settings are read from any value that is laid out as a record of them, each from what the value
holds for it. -/
theorem decode_ok_iff (bag : Value) (settings : Settings) :
    Settings.decode (Node.ofValue bag) = .ok settings ↔
      LaidOut slots bag ∧ Makes (fun name => part slots name bag) settings := by
  refine record_ok_iff fun parts holds => ?_
  have part_done : ∀ {α : Type} (name : String) (default : α) (decoder : Decoder α) (a : α),
      parts.withDefault name default decoder = .done a ↔
        readOr decoder default (part slots name bag) = .ok a :=
    fun name => withDefault_done_iff (holds name)
  simp only [seq_done_iff, map_done_iff, part_done]
  constructor
  · rintro ⟨_, ⟨_, ⟨_, ⟨_, ⟨_, ⟨_, temperature, rfl⟩, _, topP, rfl⟩, _, maxTokens, rfl⟩, _, seed,
      rfl⟩, _, safePrompt, rfl⟩, _, tools, rfl⟩
    exact ⟨temperature, topP, maxTokens, seed, safePrompt, tools⟩
  · intro makes
    exact ⟨_, ⟨_, ⟨_, ⟨_, ⟨_, ⟨_, makes.temperature, rfl⟩, _, makes.topP, rfl⟩, _, makes.maxTokens,
      rfl⟩, _, makes.seed, rfl⟩, _, makes.safePrompt, rfl⟩, _, makes.tools, rfl⟩

theorem ofBag_object_ok_iff (fields : List (String × Value)) (settings : Settings) :
    Settings.ofBag (.object fields) = .ok settings ↔ Reads fields settings := by
  rw [ofBag_ok_iff _ rfl, decode_ok_iff]
  constructor
  · rintro ⟨once, makes⟩
    exact ⟨once, makes.temperature, makes.topP, makes.maxTokens, makes.seed, makes.safePrompt,
      makes.tools⟩
  · intro reads
    exact ⟨reads.once, reads.temperature, reads.topP, reads.maxTokens, reads.seed,
      reads.safePrompt, reads.tools⟩

/-- A value in memory is read as itself if it is a scalar. -/
theorem read_scalar {value : Value} {scalar : Scalar}
    (is : Scalar.ofValue? value = some scalar) :
    Decode.value (Node.ofValue value) = .ok value := by
  cases value with
  | null | bool | number | string => rfl
  | array | object => cases is

/-- What an array or an object is read as is no scalar either. -/
theorem scalar_of_read {value found : Value} (came : Decode.value (Node.ofValue value) = .ok found) :
    Scalar.ofValue? found = Scalar.ofValue? value := by
  cases value with
  | null | bool | number | string =>
    cases came
    rfl
  | array items =>
    cases inside : Decode.valueItems (Items.ofValues items.length items) with
    | error => simp [Node.ofValue, Decode.value, inside, Except.map] at came
    | ok values =>
      simp only [Node.ofValue, Decode.value, inside, Except.map] at came
      cases came
      rfl
  | object fields =>
    cases inside : Decode.valueFields (Fields.ofFields fields) with
    | error => simp [Node.ofValue, Decode.value, inside, Except.map] at came
    | ok values =>
      simp only [Node.ofValue, Decode.value, inside, Except.map] at came
      cases came
      rfl

/-- Reading a loosely typed value comes down to converting the scalar that it is. -/
theorem decodeWith_ok_iff {α : Type} (convert : Scalar → Except Scalar.Refusal α) (value : Value)
    (a : α) :
    Scalar.decodeWith convert (Node.ofValue value) = .ok a ↔
      ∃ scalar, Scalar.ofValue? value = some scalar ∧ convert scalar = .ok a := by
  cases came : Decode.value (Node.ofValue value) with
  | error fault =>
    constructor
    · simp [Scalar.decodeWith, came, bind, Except.bind]
    · rintro ⟨scalar, is, -⟩
      rw [read_scalar is] at came
      cases came
  | ok found =>
    simp only [Scalar.decodeWith, came, bind, Except.bind, ← scalar_of_read came]
    cases Scalar.ofValue? found with
    | none => simp [throw, throwThe, MonadExceptOf.throw]
    | some scalar =>
      cases converted : convert scalar <;>
        simp [converted, throw, throwThe, MonadExceptOf.throw, pure, Except.pure]

end ChatClient.Bag
