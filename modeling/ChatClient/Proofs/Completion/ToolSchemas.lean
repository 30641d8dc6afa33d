import Mathlib.Data.List.Forall2
import ChatClient.Proofs.Completion.Building
import ChatClient.Proofs.Settings.Bag
import ChatClient.Proofs.Settings.Offers

/-! The schemas that requests show. A server refuses a function whose schema is the empty object.
Attaching a schema to a definition drops the empty one, but a definition that is read from a bag of
settings keeps it, and a request offers whatever definitions the settings hold. -/
namespace ChatClient.ToolSchemas
open Json Records Layouts Storing Bag Offers Building

/-- A definition that came about by naming a function, describing it and attaching schemas. -/
inductive Made : FunctionDefinition → Prop
  | of (name : String) : Made (.of name)
  | described {tool : FunctionDefinition} (text : String) :
    Made tool → Made (tool.withDescription text)
  | schema {tool : FunctionDefinition} (value : Value) : Made tool → Made (tool.withParameters value)

/-- The function in the envelope is written with the empty object for a schema. -/
def ShowsEmptySchema (tool : Tool) : Prop :=
  ∃ function, tool.toJson.get? "function" = some function ∧
    function.get? "parameters" = some (.object [])

/-- The bag holds a list of tools, and one of them has the empty object for a schema. -/
def HoldsEmptySchema (bag : Value) : Prop :=
  ∃ items, part Bag.slots "tools" bag = some (.array items) ∧
    ∃ item ∈ items, part Offers.slots "parameters" item = some (.object [])

section Definitions
variable {tool : FunctionDefinition}

theorem Made.schema_not_empty (made : Made tool) : tool.parameters ≠ some (.object []) := by
  induction made with
  | of name => exact nofun
  | described text _ ih => exact ih
  | schema value =>
    unfold FunctionDefinition.withParameters
    split
    · exact nofun
    · rename_i nonempty
      exact fun same => nonempty (Option.some.inj same)

theorem shows_empty_schema_iff : ShowsEmptySchema (.offering tool) ↔
    tool.parameters = some (.object []) := by
  have envelope : (Tool.offering tool).toJson.get? "function" = some tool.toJson := rfl
  have shown : tool.toJson.get? "parameters" = tool.parameters := by
    cases described : tool.description <;> cases given : tool.parameters <;>
      simp [FunctionDefinition.toJson, described, given, field, field?, Value.get?, List.lookup_cons]
  simp [ShowsEmptySchema, envelope, shown]

end Definitions

section Settings
variable {bag : Value} {settings : Settings}

theorem present_eq_empty_iff (held : Option Value) :
    present held = some (.object []) ↔ held = some (.object []) := by
  unfold present
  split <;> simp

/-- The definitions that are read from a list have the schemas of its items, in their order. -/
theorem schemas_of_read {items : List Value} {tools : List FunctionDefinition}
    (stored : Stored (.array items))
    (read : Decode.list FunctionDefinition.decode (Node.ofValue (.array items)) = .ok tools) :
    tools.map (·.parameters) = items.map fun item => present (part Offers.slots "parameters" item) := by
  obtain ⟨_, is, related⟩ := (list_ok_iff _ _ _).mp read
  cases is
  rw [← List.forall₂_eq_eq_eq, List.forall₂_map_left_iff, List.forall₂_map_right_iff]
  have all := (List.forall₂_and_left _ _).mpr ⟨stored_array_iff.mp stored, related⟩
  refine all.flip.imp fun tool item ⟨held, decoded⟩ => ?_
  exact ((Offers.decode_ok_iff held tool).mp decoded).2.parameters

/-- The tools are read from what the bag holds for them; null holds nothing. -/
theorem tools_of_bag (ok : Settings.ofBag bag = .ok settings) :
    readOr (Decode.list FunctionDefinition.decode) [] (part Bag.slots "tools" bag) =
      .ok settings.tools := by
  cases bag with
  | null =>
    cases ok
    rfl
  | bool | number | string | array | object =>
    exact ((Bag.decode_ok_iff _ _).mp ((ofBag_ok_iff _ rfl _).mp ok)).2.tools

theorem empty_schema_of_bag_iff (stored : Stored bag) (ok : Settings.ofBag bag = .ok settings) :
    (∃ tool ∈ settings.tools, tool.parameters = some (.object [])) ↔ HoldsEmptySchema bag := by
  have read := tools_of_bag ok
  unfold HoldsEmptySchema
  cases held : part Bag.slots "tools" bag with
  | none =>
    rw [held] at read
    simp [← Except.ok.inj read]
  | some value =>
    rw [held] at read
    obtain ⟨items, rfl, -⟩ := (list_ok_iff _ _ _).mp read
    have schemas := schemas_of_read (stored_of_part stored held) read
    have among : (∃ tool ∈ settings.tools, tool.parameters = some (.object [])) ↔
        some (.object []) ∈ settings.tools.map (·.parameters) := List.mem_map.symm
    rw [among, schemas, List.mem_map]
    simp [present_eq_empty_iff]

end Settings

/-- What a request offers shows no empty schema if the definitions were made for it; if they were read
from a bag, it shows one exactly if the bag holds one. -/
theorem empty_schema_offered_iff_held {model : String} {history : History} {settings : Settings}
    {purpose : Purpose} {streams : Bool} {request : ChatRequest}
    (built : ChatRequest.forHistory model history (some settings) purpose streams = .ok request) :
    ((∀ tool ∈ settings.tools, Made tool) → ¬∃ tool ∈ request.tools, ShowsEmptySchema tool) ∧
    ∀ bag, Stored bag → Settings.ofBag bag = .ok settings →
      ((∃ tool ∈ request.tools, ShowsEmptySchema tool) ↔ HoldsEmptySchema bag) := by
  obtain ⟨-, rfl⟩ := for_history_ok_iff.mp built
  have shown : (∃ tool ∈ (ChatRequest.ofSettings model
      (Message.endOnUser (history.turns.map Message.ofTurn)) settings purpose streams).tools,
      ShowsEmptySchema tool) ↔ ∃ tool ∈ settings.tools, tool.parameters = some (.object []) := by
    simp [ChatRequest.ofSettings, shows_empty_schema_iff]
  refine ⟨?_, fun bag stored ok => shown.trans (empty_schema_of_bag_iff stored ok)⟩
  rintro made offered
  obtain ⟨tool, among, empty⟩ := shown.mp offered
  exact (made tool among).schema_not_empty empty

theorem attached_empty_schema_not_offered :
    let tool := (FunctionDefinition.of "f").withParameters (.object [])
    ∃ request, ChatRequest.forHistory "m" ⟨[⟨.user, "p", none⟩]⟩
        (some { Settings.default with tools := [tool] }) .chat false = .ok request ∧
      request.tools.length = 1 ∧ ¬∃ tool ∈ request.tools, ShowsEmptySchema tool := by
  intro tool
  have made : ∀ offered ∈ [tool], Made offered := by
    simpa [tool] using Made.schema (.object []) (.of "f")
  have built : ChatRequest.forHistory "m" ⟨[⟨.user, "p", none⟩]⟩
      (some { Settings.default with tools := [tool] }) .chat false = .ok _ := rfl
  exact ⟨_, built, rfl, (empty_schema_offered_iff_held built).1 made⟩

/-- Read from a bag, the same definition keeps its schema and is offered with it. -/
theorem empty_schema_of_bag_offered :
    ∃ settings request, Settings.ofBag (.object [("tools",
        .array [.object [("name", .string "f"), ("parameters", .object [])]])]) = .ok settings ∧
      ChatRequest.forHistory "m" ⟨[⟨.user, "p", none⟩]⟩ (some settings) .chat false = .ok request ∧
      ∃ tool ∈ request.tools, ShowsEmptySchema tool :=
  ⟨_, _, rfl, rfl, _, List.mem_cons_self, _, rfl, rfl⟩

end ChatClient.ToolSchemas
