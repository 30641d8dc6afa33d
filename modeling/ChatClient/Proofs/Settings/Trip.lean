import ChatClient.Proofs.Json.Writing
import ChatClient.Proofs.Settings.Keys
import ChatClient.Proofs.Settings.Offers

/-! Settings that are handed over in a bag and read again. What is written for each of them is of the
kind that its key converts from, so the bag gives the settings back. Two things do not come through:
a sampling value that JSON has no number for, which is written as null and refused, and a schema that
is null, which is read as none. -/
namespace ChatClient.Trip
open Json Records Layouts Storing Bag Conversion Seed SettingKeys Offers Writing

section Definitions

/-- The definition without a schema that is null. -/
def bare (tool : FunctionDefinition) : FunctionDefinition :=
  { tool with parameters := present tool.parameters }

/-- What a definition is written as. -/
def columns (tool : FunctionDefinition) : List (String × Option Value) :=
  [("name", some (.string tool.name)), ("description", tool.description.map .string),
    ("parameters", tool.parameters)]

theorem definition_table (tool : FunctionDefinition) : Table Offers.slots (columns tool) :=
  ⟨rfl, by simp [columns]⟩

theorem definition_written (tool : FunctionDefinition) :
    tool.toJson = .object (written (columns tool)) := by
  simp [FunctionDefinition.toJson, written, field, field?, columns]

theorem stored_of_written {tool : FunctionDefinition}
    (schema : ∀ value, tool.parameters = some value → Stored value) :
    ∀ field ∈ written (columns tool), Stored field.2 := by
  rintro ⟨key, value⟩ among
  have column := mem_written.mp among
  simp only [columns, List.mem_cons, List.not_mem_nil, or_false, Prod.mk.injEq] at column
  rcases column with ⟨-, held⟩ | ⟨-, held⟩ | ⟨-, held⟩
  · cases held
    exact .string _
  · obtain ⟨text, -, rfl⟩ := Option.map_eq_some_iff.mp held.symm
    exact .string text
  · exact schema value held.symm

/-- A stored definition is read again, but for a schema that is null. -/
theorem definition_restored {tool : FunctionDefinition}
    (schema : ∀ value, tool.parameters = some value → Stored value) :
    FunctionDefinition.decode (Node.ofValue tool.toJson.stored) = .ok (bare tool) := by
  have table := definition_table tool
  obtain ⟨fields, same, stored, alike⟩ :=
    ordered_object (table.apart.sublist (written_keys _)) (stored_of_written schema)
  have ordered := (stored_object_iff.mp stored).1
  have held : ∀ name value, (columns tool).lookup name = some value →
      part Offers.slots name (.object fields) = value := by
    intro name value here
    rw [part, given_own (table.own_key here), alike, lookup_written table.apart, here,
      Option.join_some]
  rw [definition_written, same, Offers.decode_ok_iff stored]
  refine ⟨ordered.nodup.sublist (table.named_keys fields), held "name" _ rfl, ?_, ?_⟩
  · rw [held "description" _ rfl, bare]
    cases tool.description <;> rfl
  · rw [held "parameters" _ rfl]
    rfl

end Definitions

section Settings
variable {held : String → Option Value} {settings : Settings}

/-- What settings are written as. -/
def entries (settings : Settings) : List (String × Value) :=
  [("temperature", .float settings.temperature), ("top_p", .float settings.topP),
    ("max_tokens", .ofOption (fun n => .nat n.toNat) settings.maxTokens),
    ("random_seed", .ofOption (fun n => .int n.toInt) settings.seed),
    ("safe_prompt", .bool settings.safePrompt),
    ("tools", .array (settings.tools.map FunctionDefinition.toJson))]

/-- What a bag holds for a setting that was written into it. -/
def handed (settings : Settings) (name : String) : Option Value :=
  ((entries settings).lookup name).map Value.stored

/-- A bag that settings were written into is read by what it was given. -/
theorem ofBag_toBag_iff (settings read : Settings) :
    Settings.ofBag settings.toBag = .ok read ↔ Makes (handed settings) read := by
  have distinct : ((entries settings).map Prod.fst).Nodup := by simp [entries]
  obtain ⟨fields, same, ordered, found⟩ := stored_object distinct
  have bag : settings.toBag = .object fields := same
  have once : ¬GivenTwice fields := by
    simp [GivenTwice, found, entries]
  have alike : underKey fields = handed settings := by
    funext name
    by_cases safe : name = "safe_prompt"
    · subst safe
      have unaliased : fields.lookup "safe_mode" = none := by simp [found, entries]
      rw [underKey, if_pos rfl, unaliased, Option.or_none, found, handed]
    · rw [underKey, if_neg safe, found, handed]
  rw [bag, ofBag_keys_iff ordered, and_iff_right once, alike]

theorem float_restored_iff (x y default : Binary64) :
    readOr (Scalar.decodeWith Scalar.toFloat) default (some (Value.float x).stored) = .ok y ↔
      x.isFinite = true ∧ x = y := by
  rw [readOr, decodeWith_ok_iff]
  by_cases finite : x.isFinite = true
  · have same : (Value.float x).stored = .number (.float x) := if_pos finite
    simp [same, finite, Scalar.ofValue?, Scalar.ofNumber, Scalar.toFloat]
  · have lost : (Value.float x).stored = .null := if_neg finite
    simp [lost, finite, Scalar.ofValue?]

theorem limit_restored (limit : Option UInt32) :
    readOr (Decode.optional (Scalar.decodeWith Scalar.toCount)) none
      (some (Value.ofOption (fun n : UInt32 => .nat n.toNat) limit).stored) = .ok limit := by
  cases limit with
  | none => rfl
  | some n =>
    have denotes : Denotes (.nat n.toNat) n.toNat := .int _
    exact (optional_ok_iff _ (.nat n.toNat) _).mpr
      (.inr ⟨denotes.ne_null, n, (count_ok_iff n).mpr denotes, rfl⟩)

theorem seed_restored (seed : Option Int64) :
    readOr (Decode.optional (Scalar.decodeWith Scalar.toInteger)) none
      (some (Value.ofOption (fun n : Int64 => .int n.toInt) seed).stored) = .ok seed := by
  cases seed with
  | none => rfl
  | some k =>
    have takes := (takes_of_fits (.int k.toInt) (fits_toInt k) k).mpr rfl
    exact (Seed.decode_ok_iff (.int k.toInt) _).mpr (.inr ⟨k, rfl, takes⟩)

theorem tools_restored {tools : List FunctionDefinition}
    (schemas : ∀ tool ∈ tools, ∀ schema, tool.parameters = some schema → Stored schema) :
    readOr (Decode.list FunctionDefinition.decode) []
      (some (Value.array (tools.map FunctionDefinition.toJson)).stored) = .ok (tools.map bare) := by
  rw [readOr, Value.stored, storedItems_eq_map, list_ok_iff]
  refine ⟨_, rfl, ?_⟩
  simp only [List.forall₂_map_left_iff, List.forall₂_map_right_iff, List.forall₂_same]
  exact fun tool among => definition_restored (schemas tool among)

/-- Settings whose schemas are values that memory can hold come out of their bag again if both
sampling values are finite, with nothing changed but that a schema that is null is dropped. If one of
the two is not finite, the bag is refused. -/
theorem settings_restored_iff_finite (settings : Settings)
    (schemas : ∀ tool ∈ settings.tools, ∀ schema, tool.parameters = some schema → Stored schema) :
    let finite := settings.temperature.isFinite = true ∧ settings.topP.isFinite = true
    (finite → Settings.ofBag settings.toBag =
      .ok { settings with tools := settings.tools.map bare }) ∧
    (¬finite → ∃ error, Settings.ofBag settings.toBag = .error (.invalidSettings error)) := by
  constructor
  · rintro ⟨temperature, topP⟩
    rw [ofBag_toBag_iff]
    exact {
      temperature := (float_restored_iff ..).mpr ⟨temperature, rfl⟩
      topP := (float_restored_iff ..).mpr ⟨topP, rfl⟩
      maxTokens := limit_restored settings.maxTokens
      seed := seed_restored settings.seed
      safePrompt := (safe_ok_iff _).mpr (.bool settings.safePrompt)
      tools := tools_restored schemas }
  · intro infinite
    apply ofBag_refused
    intro read ok
    have makes := (ofBag_toBag_iff settings read).mp ok
    exact infinite ⟨((float_restored_iff ..).mp makes.temperature).1,
      ((float_restored_iff ..).mp makes.topP).1⟩

theorem null_schema_dropped_on_trip :
    Settings.ofBag { Settings.default with seed := some 7, tools := [⟨"f", none, some .null⟩] }.toBag =
      .ok { Settings.default with seed := some 7, tools := [⟨"f", none, none⟩] } :=
  (settings_restored_iff_finite _ (by simp [Stored.null])).1 ⟨by decide +kernel, by decide +kernel⟩

end Settings

end ChatClient.Trip
