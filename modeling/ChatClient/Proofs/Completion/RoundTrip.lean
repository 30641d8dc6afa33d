import ChatClient.Completion.Reply
import ChatClient.Conversation.Message
import ChatClient.Proofs.Json.Writing

/-! What is stored comes back. Conversations, messages, and all that a server answers are written as
JSON values from which reading restores them: whatever the texts and numbers are, with each optional
part present or absent, and each list empty or not. -/
namespace ChatClient.RoundTrip
open Json Records Writing

section Conversations

theorem role_restores : Restores Role.decode Role.toJson := by
  intro role
  cases role <;> rfl

theorem message_role_restores : Restores MessageRole.decode MessageRole.toJson := by
  intro role
  cases role <;> rfl

theorem turn_restores : Restores Turn.decode Turn.toJson := by
  have table (turn : Turn) : Table [slot "role", slot "text", slot "model_id"]
      [("role", some turn.role.toJson), ("text", some (.string turn.text)),
        ("model_id", turn.modelId.map .string)] := ⟨rfl, by simp⟩
  refine record_restores table (fun turn => ?_) fun turn => ?_
  · simp [Turn.toJson, written, field, field?]
  · have role := (table turn).required_ok "role" rfl (role_restores turn.role)
    have text := (table turn).required_ok "text" rfl (string_restores turn.text)
    have modelId := (table turn).default_ok "model_id" rfl
      (omitted_restores string_restores nofun turn.modelId)
    exact seq_done (seq_done (map_done Turn.mk role) text) modelId

theorem history_restores : Restores History.decode History.toJson := by
  intro history
  have turns := list_restores turn_restores history.turns
  exact congrArg (Except.map History.mk) turns

theorem message_restores : Restores Message.decode Message.toJson := by
  have table (message : Message) : Table [slot "role", slot "content"]
      [("role", some message.role.toJson), ("content", some (.string message.content))] :=
    ⟨rfl, by simp⟩
  refine record_restores table (fun message => rfl) fun message => ?_
  have role := (table message).required_ok "role" rfl (message_role_restores message.role)
  have content := (table message).required_ok "content" rfl (string_restores message.content)
  exact seq_done (map_done Message.mk role) content

end Conversations

section Answers

theorem delta_restores : Restores Delta.decode Delta.toJson := by
  have table (delta : Delta) : Table
      [slot "choice_index", slot "role", slot "content", slot "finish_reason", slot "model"]
      [("choice_index", some (.nat delta.choiceIndex.toNat)),
        ("role", some (.ofOption .string delta.role)), ("content", some (.string delta.content)),
        ("finish_reason", some (.ofOption .string delta.finishReason)),
        ("model", some (.ofOption .string delta.model))] := ⟨rfl, by simp⟩
  have optional := optional_restores string_restores nofun
  refine record_restores table (fun delta => rfl) fun delta => ?_
  have index := (table delta).required_ok "choice_index" rfl (uint32_restores delta.choiceIndex)
  have role := (table delta).nullable_ok "role" rfl (optional delta.role)
  have content := (table delta).required_ok "content" rfl (string_restores delta.content)
  have reason := (table delta).nullable_ok "finish_reason" rfl (optional delta.finishReason)
  have model := (table delta).nullable_ok "model" rfl (optional delta.model)
  exact seq_done (seq_done (seq_done (seq_done (map_done Delta.mk index) role) content) reason)
    model

theorem function_call_restores : Restores FunctionCall.decode FunctionCall.toJson := by
  have table (call : FunctionCall) : Table [slot "name", slot "arguments"]
      [("name", some (.string call.name)), ("arguments", some (.string call.arguments))] :=
    ⟨rfl, by simp⟩
  refine record_restores table (fun call => rfl) fun call => ?_
  have name := (table call).required_ok "name" rfl (string_restores call.name)
  have arguments := (table call).present_ok "arguments" "" rfl (string_restores call.arguments)
  exact seq_done (map_done FunctionCall.mk name) arguments

theorem tool_call_restores : Restores ToolCall.decode ToolCall.toJson := by
  have table (call : ToolCall) : Table [slot "id", slot "type", slot "function"]
      [("id", some (.string call.id)), ("type", some (.string call.type)),
        ("function", some call.function.toJson)] := ⟨rfl, by simp⟩
  refine record_restores table (fun call => rfl) fun call => ?_
  have id := (table call).present_ok "id" "" rfl (string_restores call.id)
  have type := (table call).present_ok "type" "function" rfl (string_restores call.type)
  have function := (table call).required_ok "function" rfl (function_call_restores call.function)
  exact seq_done (seq_done (map_done ToolCall.mk id) type) function

theorem usage_restores : Restores Usage.decode Usage.toJson := by
  have table (usage : Usage) : Table
      [slot "prompt_tokens", slot "completion_tokens", slot "total_tokens"]
      [("prompt_tokens", some (.nat usage.promptTokens.toNat)),
        ("completion_tokens", some (.nat usage.completionTokens.toNat)),
        ("total_tokens", some (.nat usage.totalTokens.toNat))] := ⟨rfl, by simp⟩
  refine record_restores table (fun usage => rfl) fun usage => ?_
  have prompt := (table usage).present_ok "prompt_tokens" 0 rfl (uint64_restores usage.promptTokens)
  have completion := (table usage).present_ok "completion_tokens" 0 rfl
    (uint64_restores usage.completionTokens)
  have total := (table usage).present_ok "total_tokens" 0 rfl (uint64_restores usage.totalTokens)
  exact seq_done (seq_done (map_done Usage.mk prompt) completion) total

/-- A list that is left out where it is empty. -/
theorem nonempty_restores {α : Type} {decode : Decoder α} {encode : α → Value}
    (restores : Restores decode encode) (list : List α) :
    readOr (Decode.list decode) []
      (if list.isEmpty then none else some (.array (list.map encode))) = .ok list := by
  cases list with
  | nil => rfl
  | cons a rest => exact list_restores restores (a :: rest)

theorem reply_restores : Restores Reply.decode Reply.toJson := by
  have table (reply : Reply) : Table
      [slot "role", slot "text", slot "model_id", slot "usage", slot "tool_calls",
        slot "finish_reason"]
      [("role", some reply.role.toJson), ("text", some (.string reply.text)),
        ("model_id", some (.string reply.modelId)), ("usage", reply.usage.map Usage.toJson),
        ("tool_calls", if reply.toolCalls.isEmpty then none
          else some (.array (reply.toolCalls.map ToolCall.toJson))),
        ("finish_reason", reply.finishReason.map .string)] := ⟨rfl, by simp⟩
  refine record_restores table (fun reply => ?_) fun reply => ?_
  · simp [Reply.toJson, written, field, field?]
  · have role := (table reply).required_ok "role" rfl (role_restores reply.role)
    have text := (table reply).required_ok "text" rfl (string_restores reply.text)
    have modelId := (table reply).required_ok "model_id" rfl (string_restores reply.modelId)
    have usage := (table reply).default_ok "usage" rfl
      (omitted_restores usage_restores nofun reply.usage)
    have toolCalls := (table reply).default_ok "tool_calls" rfl
      (nonempty_restores tool_call_restores reply.toolCalls)
    have reason := (table reply).default_ok "finish_reason" rfl
      (omitted_restores string_restores nofun reply.finishReason)
    exact seq_done (seq_done (seq_done (seq_done (seq_done (map_done Reply.mk role) text) modelId)
      usage) toolCalls) reason

end Answers

section Responses

theorem response_message_restores : Restores ResponseMessage.decode ResponseMessage.toJson := by
  have table (message : ResponseMessage) : Table [slot "role", slot "content", slot "tool_calls"]
      [("role", some (.string message.role)),
        ("content", some (.ofOption .string message.content)),
        ("tool_calls", message.toolCalls.map fun calls => .array (calls.map ToolCall.toJson))] :=
    ⟨rfl, by simp⟩
  refine record_restores table (fun message => ?_) fun message => ?_
  · simp [ResponseMessage.toJson, written, field, field?]
  · have role := (table message).present_ok "role" "" rfl (string_restores message.role)
    have content := (table message).present_ok "content" none rfl
      (optional_restores string_restores nofun message.content)
    have toolCalls := (table message).default_ok "tool_calls" rfl
      (omitted_restores (list_restores tool_call_restores) nofun message.toolCalls)
    exact seq_done (seq_done (map_done ResponseMessage.mk role) content) toolCalls

theorem choice_restores : Restores Choice.decode Choice.toJson := by
  have table (choice : Choice) : Table [slot "index", slot "message", slot "finish_reason"]
      [("index", some (.nat choice.index.toNat)), ("message", some choice.message.toJson),
        ("finish_reason", choice.finishReason.map .string)] := ⟨rfl, by simp⟩
  refine record_restores table (fun choice => ?_) fun choice => ?_
  · simp [Choice.toJson, written, field, field?]
  · have index := (table choice).required_ok "index" rfl (uint32_restores choice.index)
    have message := (table choice).required_ok "message" rfl
      (response_message_restores choice.message)
    have reason := (table choice).nullable_ok "finish_reason" rfl
      (omitted_restores string_restores nofun choice.finishReason)
    exact seq_done (seq_done (map_done Choice.mk index) message) reason

theorem response_restores : Restores ChatResponse.decode ChatResponse.toJson := by
  have table (response : ChatResponse) : Table
      [slot "id", slot "object", slot "created", slot "model", slot "choices", slot "usage"]
      [("id", some (.string response.id)), ("object", some (.string response.object)),
        ("created", some (.nat response.created.toNat)), ("model", some (.string response.model)),
        ("choices", some (.array (response.choices.map Choice.toJson))),
        ("usage", response.usage.map Usage.toJson)] := ⟨rfl, by simp⟩
  refine record_restores table (fun response => ?_) fun response => ?_
  · simp [ChatResponse.toJson, written, field, field?]
  · have id := (table response).present_ok "id" "" rfl (string_restores response.id)
    have object := (table response).present_ok "object" "" rfl (string_restores response.object)
    have created := (table response).present_ok "created" 0 rfl (uint64_restores response.created)
    have model := (table response).present_ok "model" "" rfl (string_restores response.model)
    have choices := (table response).present_ok "choices" [] rfl
      (list_restores choice_restores response.choices)
    have usage := (table response).nullable_ok "usage" rfl
      (omitted_restores usage_restores nofun response.usage)
    exact seq_done (seq_done (seq_done (seq_done (seq_done (map_done ChatResponse.mk id) object)
      created) model) choices) usage

end Responses

/-- How an optional text may be shown: left out or as null where there is none, and else as it is. -/
inductive Shows : Option String → Option Value → Prop where
  | missing : Shows none none
  | null : Shows none (some .null)
  | text (text : String) : Shows (some text) (some (.string text))

/-- A fragment as a server may show it. -/
def ShowsFragment (fragment : Fragment) (value : Value) : Prop :=
  ∃ role content, Shows fragment.role role ∧ Shows fragment.content content ∧
    value = .object (written [("role", role), ("content", content),
      ("tool_calls", fragment.toolCalls.map fun calls => .array (calls.map ToolCall.toJson))])

/-- A choice of an event as a server may list it. -/
def ShowsChoice (choice : StreamChoice) (value : Value) : Prop :=
  ∃ delta reason, ShowsFragment choice.delta delta ∧ Shows choice.finishReason reason ∧
    value = .object (written [("index", some (.nat choice.index.toNat)), ("delta", some delta),
      ("finish_reason", reason)])

/-- An event as a server may send it, with its choices in order. -/
def ShowsChunk (chunk : Chunk) (value : Value) : Prop :=
  ∃ choices, List.Forall₂ ShowsChoice chunk.choices choices ∧
    value = .object (written [("id", some (.string chunk.id)),
      ("object", some (.string chunk.object)), ("created", some (.nat chunk.created.toNat)),
      ("model", some (.string chunk.model)), ("choices", some (.array choices)),
      ("usage", chunk.usage.map Usage.toJson)])

section Events

theorem text_of_shown {text : Option String} {column : Option Value} (shows : Shows text column) :
    readOr (Decode.optional Decode.string) none column = .ok text := by
  cases shows <;> rfl

/-- A text that is left out where it is absent. -/
theorem shows_omitted (text : Option String) : Shows text (text.map .string) := by
  cases text with
  | none => exact .missing
  | some text => exact .text text

theorem fragment_of_shown {fragment : Fragment} {value : Value}
    (shows : ShowsFragment fragment value) :
    Fragment.decode (Node.ofValue value) = .ok fragment := by
  obtain ⟨role, content, showsRole, showsContent, rfl⟩ := shows
  have table : Table [slot "role", slot "content", slot "tool_calls"]
      [("role", role), ("content", content),
        ("tool_calls", fragment.toolCalls.map fun calls => .array (calls.map ToolCall.toJson))] :=
    ⟨rfl, by simp⟩
  have role := table.nullable_ok "role" rfl (text_of_shown showsRole)
  have content := table.nullable_ok "content" rfl (text_of_shown showsContent)
  have toolCalls := table.default_ok "tool_calls" rfl
    (omitted_restores (list_restores tool_call_restores) nofun fragment.toolCalls)
  exact table.record_ok "Delta" (seq_done (seq_done (map_done Fragment.mk role) content) toolCalls)

theorem choice_of_shown {choice : StreamChoice} {value : Value} (shows : ShowsChoice choice value) :
    StreamChoice.decode (Node.ofValue value) = .ok choice := by
  obtain ⟨delta, reason, showsDelta, showsReason, rfl⟩ := shows
  have table : Table [slot "index", slot "delta", slot "finish_reason"]
      [("index", some (.nat choice.index.toNat)), ("delta", some delta),
        ("finish_reason", reason)] := ⟨rfl, by simp⟩
  have index := table.required_ok "index" rfl (uint32_restores choice.index)
  have delta := table.present_ok "delta" .empty rfl (fragment_of_shown showsDelta)
  have reason := table.nullable_ok "finish_reason" rfl (text_of_shown showsReason)
  exact table.record_ok "StreamChoice"
    (seq_done (seq_done (map_done StreamChoice.mk index) delta) reason)

/-- An event is decoded as what it shows, with optional texts in any of their forms. -/
theorem chunk_of_shown {chunk : Chunk} {value : Value} (shows : ShowsChunk chunk value) :
    Chunk.decode (Node.ofValue value) = .ok chunk := by
  obtain ⟨choices, showsChoices, rfl⟩ := shows
  have table : Table
      [slot "id", slot "object", slot "created", slot "model", slot "choices", slot "usage"]
      [("id", some (.string chunk.id)), ("object", some (.string chunk.object)),
        ("created", some (.nat chunk.created.toNat)), ("model", some (.string chunk.model)),
        ("choices", some (.array choices)), ("usage", chunk.usage.map Usage.toJson)] :=
    ⟨rfl, by simp⟩
  have listed : Decode.list StreamChoice.decode (Node.ofValue (.array choices)) =
      .ok chunk.choices :=
    (list_ok_iff ..).mpr ⟨choices, rfl, showsChoices.flip.imp fun _ _ => choice_of_shown⟩
  have id := table.present_ok "id" "" rfl (string_restores chunk.id)
  have object := table.present_ok "object" "" rfl (string_restores chunk.object)
  have created := table.present_ok "created" 0 rfl (uint64_restores chunk.created)
  have model := table.present_ok "model" "" rfl (string_restores chunk.model)
  have choices := table.required_ok "choices" rfl listed
  have usage := table.nullable_ok "usage" rfl
    (omitted_restores usage_restores nofun chunk.usage)
  exact table.record_ok "ChatCompletionChunk"
    (seq_done (seq_done (seq_done (seq_done (seq_done (map_done Chunk.mk id) object) created)
      model) choices) usage)

/-- What is written of an event is one of the forms that show it. -/
theorem chunk_restores : Restores Chunk.decode Chunk.toJson := by
  have fragment (fragment : Fragment) : ShowsFragment fragment fragment.toJson :=
    ⟨_, _, shows_omitted fragment.role, shows_omitted fragment.content,
      by simp [Fragment.toJson, written]⟩
  have choice (choice : StreamChoice) : ShowsChoice choice choice.toJson :=
    ⟨_, _, fragment choice.delta, shows_omitted choice.finishReason,
      by simp [StreamChoice.toJson, written, field, field?]⟩
  intro chunk
  have choices : List.Forall₂ ShowsChoice chunk.choices
      (chunk.choices.map StreamChoice.toJson) :=
    List.forall₂_map_right_iff.mpr (List.forall₂_same.mpr fun listed _ => choice listed)
  exact chunk_of_shown ⟨_, choices, by simp [Chunk.toJson, written, field, field?]⟩

end Events

/-- Reading restores all that is written of conversations and of answers: turns, histories,
messages, deltas, calls of tools, token counts, replies, whole responses and the chunks of
streams. -/
theorem written_values_are_restored :
    (∀ turn : Turn, decodeValue Turn.decode turn.toJson = .ok turn) ∧
      (∀ history : History, decodeValue History.decode history.toJson = .ok history) ∧
      (∀ message : Message, decodeValue Message.decode message.toJson = .ok message) ∧
      (∀ delta : Delta, decodeValue Delta.decode delta.toJson = .ok delta) ∧
      (∀ call : ToolCall, decodeValue ToolCall.decode call.toJson = .ok call) ∧
      (∀ usage : Usage, decodeValue Usage.decode usage.toJson = .ok usage) ∧
      (∀ reply : Reply, decodeValue Reply.decode reply.toJson = .ok reply) ∧
      (∀ response : ChatResponse,
        decodeValue ChatResponse.decode response.toJson = .ok response) ∧
      ∀ chunk : Chunk, decodeValue Chunk.decode chunk.toJson = .ok chunk :=
  ⟨decode_value_of_restores turn_restores, decode_value_of_restores history_restores,
    decode_value_of_restores message_restores, decode_value_of_restores delta_restores,
    decode_value_of_restores tool_call_restores, decode_value_of_restores usage_restores,
    decode_value_of_restores reply_restores, decode_value_of_restores response_restores,
    decode_value_of_restores chunk_restores⟩

end ChatClient.RoundTrip
