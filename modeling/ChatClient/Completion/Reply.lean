import ChatClient.Completion.Delta
import ChatClient.Conversation.History
import ChatClient.Failure

/-! The result of a completion: taken from a whole response, or gathered from deltas. -/

namespace ChatClient

open Json

/-- The choice that counts as the result of a call. -/
def primaryChoice : UInt32 := 0

/-- The assistant's answer. -/
structure Reply where
  role : Role
  text : String
  modelId : String
  usage : Option Usage
  toolCalls : List ToolCall
  finishReason : Option String
  deriving DecidableEq

namespace Reply

/-- The answer in the first choice that a response lists. -/
def ofResponse (response : ChatResponse) : Except ClientError Reply :=
  match response.choices with
  | [] => .error (.shape .noChoices)
  | choice :: _ =>
    .ok {
      role := .assistant
      text := choice.message.content.getD ""
      modelId := response.model
      usage := response.usage
      toolCalls := choice.message.toolCalls.getD []
      finishReason := choice.finishReason }

/-- The turn that an answer becomes in the history. -/
def toTurn (reply : Reply) : Turn :=
  .byModel reply.text reply.modelId

def decode : Decoder Reply :=
  record "AssembledMessage"
      [slot "role", slot "text", slot "model_id", slot "usage", slot "tool_calls",
        slot "finish_reason"] fun parts =>
    Reply.mk <$> parts.required "role" Role.decode
      <*> parts.required "text" Decode.string
      <*> parts.required "model_id" Decode.string
      <*> parts.withDefault "usage" none (Decode.optional Usage.decode)
      <*> parts.withDefault "tool_calls" [] (Decode.list ToolCall.decode)
      <*> parts.withDefault "finish_reason" none (Decode.optional Decode.string)

def toJson (reply : Reply) : Value :=
  let toolCalls : Option Value :=
    if reply.toolCalls.isEmpty then none else some (.array (reply.toolCalls.map ToolCall.toJson))
  .object (field "role" reply.role.toJson ++ field "text" (.string reply.text) ++
    field "model_id" (.string reply.modelId) ++ field? "usage" (reply.usage.map Usage.toJson) ++
    field? "tool_calls" toolCalls ++ field? "finish_reason" (reply.finishReason.map .string))

end Reply

/-- What the deltas of the primary choice have added up to so far. -/
structure Accumulator where
  text : String
  modelId : Option String
  finishReason : Option String
  deriving DecidableEq

namespace Accumulator

def empty : Accumulator :=
  ⟨"", none, none⟩

/-- Takes in one delta. The text grows, the first model named stays, the last finish reason counts;
deltas of other choices change nothing. -/
def push (sum : Accumulator) (delta : Delta) : Accumulator :=
  if delta.choiceIndex ≠ primaryChoice then sum
  else
    { text := sum.text ++ delta.content
      modelId := sum.modelId <|> delta.model.filter (fun model => !model.isEmpty)
      finishReason := if delta.isFinal then delta.finishReason else sum.finishReason }

/-- The turn that the deltas add up to. The model that they name wins over `fallback`. -/
def finish (sum : Accumulator) (fallback : String) : Turn :=
  .byModel sum.text (sum.modelId.getD fallback)

/-- What a list of deltas adds up to. -/
def ofDeltas (deltas : List Delta) : Accumulator :=
  deltas.foldl push empty

end Accumulator

end ChatClient
