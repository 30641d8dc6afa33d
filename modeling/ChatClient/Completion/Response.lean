import ChatClient.Tool

/-! What the server answers to a completion request: the whole response, or the chunks of a stream.
Fields that the server may leave out have defaults. -/

namespace ChatClient

open Json

/-- How many tokens a call has cost. -/
structure Usage where
  promptTokens : UInt64
  completionTokens : UInt64
  totalTokens : UInt64
  deriving DecidableEq

namespace Usage

def decode : Decoder Usage :=
  record "Usage" [slot "prompt_tokens", slot "completion_tokens", slot "total_tokens"]
    fun parts =>
      Usage.mk <$> parts.withDefault "prompt_tokens" 0 Decode.uint64
        <*> parts.withDefault "completion_tokens" 0 Decode.uint64
        <*> parts.withDefault "total_tokens" 0 Decode.uint64

def toJson (usage : Usage) : Value :=
  .object (field "prompt_tokens" (.nat usage.promptTokens.toNat) ++
    field "completion_tokens" (.nat usage.completionTokens.toNat) ++
    field "total_tokens" (.nat usage.totalTokens.toNat))

end Usage

/-- The message of one choice. The content is missing when the model only calls tools. -/
structure ResponseMessage where
  role : String
  content : Option String
  toolCalls : Option (List ToolCall)
  deriving DecidableEq

namespace ResponseMessage

def decode : Decoder ResponseMessage :=
  record "ResponseMessage" [slot "role", slot "content", slot "tool_calls"] fun parts =>
    ResponseMessage.mk <$> parts.withDefault "role" "" Decode.string
      <*> parts.withDefault "content" none (Decode.optional Decode.string)
      <*> parts.withDefault "tool_calls" none (Decode.optional (Decode.list ToolCall.decode))

def toJson (message : ResponseMessage) : Value :=
  .object (field "role" (.string message.role) ++
    field "content" (.ofOption .string message.content) ++
    field? "tool_calls" (message.toolCalls.map fun calls => .array (calls.map ToolCall.toJson)))

end ResponseMessage

structure Choice where
  index : UInt32
  message : ResponseMessage
  finishReason : Option String
  deriving DecidableEq

namespace Choice

def decode : Decoder Choice :=
  record "Choice" [slot "index", slot "message", slot "finish_reason"] fun parts =>
    Choice.mk <$> parts.required "index" Decode.uint32
      <*> parts.required "message" ResponseMessage.decode
      <*> parts.nullable "finish_reason" Decode.string

def toJson (choice : Choice) : Value :=
  .object (field "index" (.nat choice.index.toNat) ++ field "message" choice.message.toJson ++
    field? "finish_reason" (choice.finishReason.map .string))

end Choice

structure ChatResponse where
  id : String
  object : String
  created : UInt64
  model : String
  choices : List Choice
  usage : Option Usage
  deriving DecidableEq

namespace ChatResponse

def decode : Decoder ChatResponse :=
  record "ChatResponse"
      [slot "id", slot "object", slot "created", slot "model", slot "choices", slot "usage"]
    fun parts =>
      ChatResponse.mk <$> parts.withDefault "id" "" Decode.string
        <*> parts.withDefault "object" "" Decode.string
        <*> parts.withDefault "created" 0 Decode.uint64
        <*> parts.withDefault "model" "" Decode.string
        <*> parts.withDefault "choices" [] (Decode.list Choice.decode)
        <*> parts.nullable "usage" Usage.decode

def toJson (response : ChatResponse) : Value :=
  .object (field "id" (.string response.id) ++ field "object" (.string response.object) ++
    field "created" (.nat response.created.toNat) ++ field "model" (.string response.model) ++
    field "choices" (.array (response.choices.map Choice.toJson)) ++
    field? "usage" (response.usage.map Usage.toJson))

end ChatResponse

/-- The part of a message that one chunk adds. -/
structure Fragment where
  role : Option String
  content : Option String
  toolCalls : Option (List ToolCall)
  deriving DecidableEq

namespace Fragment

def empty : Fragment :=
  ⟨none, none, none⟩

def decode : Decoder Fragment :=
  record "Delta" [slot "role", slot "content", slot "tool_calls"] fun parts =>
    Fragment.mk <$> parts.nullable "role" Decode.string
      <*> parts.nullable "content" Decode.string
      <*> parts.withDefault "tool_calls" none (Decode.optional (Decode.list ToolCall.decode))

def toJson (fragment : Fragment) : Value :=
  .object (field? "role" (fragment.role.map .string) ++
    field? "content" (fragment.content.map .string) ++
    field? "tool_calls" (fragment.toolCalls.map fun calls => .array (calls.map ToolCall.toJson)))

end Fragment

structure StreamChoice where
  index : UInt32
  delta : Fragment
  finishReason : Option String
  deriving DecidableEq

namespace StreamChoice

def decode : Decoder StreamChoice :=
  record "StreamChoice" [slot "index", slot "delta", slot "finish_reason"] fun parts =>
    StreamChoice.mk <$> parts.required "index" Decode.uint32
      <*> parts.withDefault "delta" .empty Fragment.decode
      <*> parts.nullable "finish_reason" Decode.string

def toJson (choice : StreamChoice) : Value :=
  .object (field "index" (.nat choice.index.toNat) ++ field "delta" choice.delta.toJson ++
    field? "finish_reason" (choice.finishReason.map .string))

end StreamChoice

/-- One event of a streamed completion. -/
structure Chunk where
  id : String
  object : String
  created : UInt64
  model : String
  choices : List StreamChoice
  usage : Option Usage
  deriving DecidableEq

namespace Chunk

def decode : Decoder Chunk :=
  record "ChatCompletionChunk"
      [slot "id", slot "object", slot "created", slot "model", slot "choices", slot "usage"]
    fun parts =>
      Chunk.mk <$> parts.withDefault "id" "" Decode.string
        <*> parts.withDefault "object" "" Decode.string
        <*> parts.withDefault "created" 0 Decode.uint64
        <*> parts.withDefault "model" "" Decode.string
        <*> parts.required "choices" (Decode.list StreamChoice.decode)
        <*> parts.nullable "usage" Usage.decode

def toJson (chunk : Chunk) : Value :=
  .object (field "id" (.string chunk.id) ++ field "object" (.string chunk.object) ++
    field "created" (.nat chunk.created.toNat) ++ field "model" (.string chunk.model) ++
    field "choices" (.array (chunk.choices.map StreamChoice.toJson)) ++
    field? "usage" (chunk.usage.map Usage.toJson))

end Chunk

end ChatClient
