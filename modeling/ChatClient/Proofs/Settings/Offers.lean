import ChatClient.Proofs.Json.Layouts
import ChatClient.Proofs.Json.Storing
import ChatClient.Tool

/-! Functions on offer. A definition needs a name; a description and a schema of parameters are kept
as they are given, where null stands for none. -/
namespace ChatClient.Offers
open Json Records Layouts Storing

/-- The parts of a definition. -/
def slots : List Slot :=
  [slot "name", slot "description", slot "parameters"]

/-- A value that may be missing, when null counts as missing. -/
def present : Option Value → Option Value
  | some .null => none
  | other => other

/-- The definition is made of what is held for each of its parts. -/
structure Describes (held : String → Option Value) (tool : FunctionDefinition) : Prop where
  name : held "name" = some (.string tool.name)
  description : present (held "description") = tool.description.map .string
  parameters : tool.parameters = present (held "parameters")

section Values
variable {value : Value}

theorem string_ok_iff (text : String) :
    Decode.string (Node.ofValue value) = .ok text ↔ value = .string text := by
  cases value with
  | string => simp [Node.ofValue, Decode.string]
  | null | bool | number | array | object => exact iff_of_false (by rintro ⟨⟩) (by rintro ⟨⟩)

theorem present_of_not_null (something : value ≠ .null) : present (some value) = some value := by
  cases value with
  | null => exact absurd rfl something
  | bool | number | string | array | object => rfl

theorem description_ok_iff (held : Option Value) (text : Option String) :
    readOr (Decode.optional Decode.string) none held = .ok text ↔
      present held = text.map .string := by
  cases held with
  | none => cases text <;> simp [readOr, present]
  | some value =>
    rw [readOr, optional_ok_iff]
    by_cases null : value = .null
    · subst null
      cases text <;> simp [present]
    · cases text <;> simp [null, string_ok_iff, present_of_not_null null]

theorem parameters_ok_iff {held : Option Value} (stored : ∀ value, held = some value → Stored value)
    (schema : Option Value) :
    readOr (Decode.optional Decode.value) none held = .ok schema ↔ schema = present held := by
  cases held with
  | none => simp [readOr, present, eq_comm]
  | some value =>
    rw [readOr, optional_ok_iff]
    by_cases null : value = .null
    · subst null
      simp [present]
    · simp [null, (stored value rfl).read_eq, present_of_not_null null]

end Values

/-- A definition is read from any value that is laid out as one, part by part. -/
theorem decode_ok_iff {value : Value} (stored : Stored value) (tool : FunctionDefinition) :
    FunctionDefinition.decode (Node.ofValue value) = .ok tool ↔
      LaidOut slots value ∧ Describes (fun name => part slots name value) tool := by
  refine record_ok_iff fun parts holds => ?_
  simp only [seq_done_iff, map_done_iff, required_done_iff (holds _), withDefault_done_iff (holds _),
    string_ok_iff, description_ok_iff, parameters_ok_iff fun _ => stored_of_part stored]
  constructor
  · rintro ⟨_, ⟨_, ⟨_, ⟨_, name, rfl⟩, rfl⟩, _, description, rfl⟩, _, parameters, rfl⟩
    exact ⟨name, description, parameters⟩
  · rintro ⟨name, description, parameters⟩
    exact ⟨_, ⟨_, ⟨_, ⟨_, name, rfl⟩, rfl⟩, _, description, rfl⟩, _, parameters, rfl⟩

end ChatClient.Offers
