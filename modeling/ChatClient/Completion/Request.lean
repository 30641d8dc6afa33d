import ChatClient.Conversation.Message
import ChatClient.Settings
import ChatClient.Settings.Bounds

/-! The body of a completion request. -/

namespace ChatClient

open Json

/-- What a completion was asked for with: a lone prompt or a conversation. -/
inductive Purpose where
  | prompt
  | chat
  deriving DecidableEq, Repr

/-- The token limit sent when the settings give none. -/
def Purpose.defaultMaxTokens : Purpose → UInt32
  | .prompt => 256
  | .chat => 1024

structure ChatRequest where
  model : String
  messages : List Message
  stream : Bool
  safePrompt : Bool
  temperature : Binary64
  topP : Binary64
  maxTokens : Option UInt32
  seed : Option Int64
  tools : List Tool

namespace ChatRequest

/-- Joins messages and settings. Sampling values are forced into the range that the server accepts,
and a token limit is always sent. -/
def ofSettings (model : String) (messages : List Message) (settings : Settings)
    (purpose : Purpose) (stream : Bool) : ChatRequest where
  model := model
  messages := messages
  stream := stream
  safePrompt := settings.safePrompt
  temperature := samplingBounds.clamp settings.temperature
  topP := samplingBounds.clamp settings.topP
  maxTokens := some (settings.maxTokens.getD purpose.defaultMaxTokens)
  seed := settings.seed
  tools := settings.tools.map Tool.offering

/-- The request for a conversation. -/
def forHistory (model : String) (history : History) (settings : Option Settings)
    (purpose : Purpose) (stream : Bool) : Except ClientError ChatRequest :=
  history.messages.map fun messages =>
    ofSettings model messages (Settings.resolve settings) purpose stream

def decode : Decoder ChatRequest :=
  record "ChatRequest"
      [slot "model", slot "messages", slot "stream", slot "safe_prompt", slot "temperature",
        slot "top_p", slot "max_tokens", slot "random_seed", slot "tools"] fun parts =>
    ChatRequest.mk <$> parts.required "model" Decode.string
      <*> parts.required "messages" (Decode.list Message.decode)
      <*> parts.required "stream" Decode.bool
      <*> parts.required "safe_prompt" Decode.bool
      <*> parts.required "temperature" Decode.binary64
      <*> parts.required "top_p" Decode.binary64
      <*> parts.nullable "max_tokens" Decode.uint32
      <*> parts.nullable "random_seed" Decode.int64
      <*> parts.required "tools" (Decode.list Tool.decode)

def toJson (request : ChatRequest) : Value :=
  .object (field "model" (.string request.model) ++
    field "messages" (.array (request.messages.map Message.toJson)) ++
    field "stream" (.bool request.stream) ++
    field "safe_prompt" (.bool request.safePrompt) ++
    field "temperature" (.float request.temperature) ++
    field "top_p" (.float request.topP) ++
    field "max_tokens" (.ofOption (fun n => .nat n.toNat) request.maxTokens) ++
    field "random_seed" (.ofOption (fun n => .int n.toInt) request.seed) ++
    field "tools" (.array (request.tools.map Tool.toJson)))

end ChatRequest

end ChatClient
