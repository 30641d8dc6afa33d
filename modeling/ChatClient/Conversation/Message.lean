import ChatClient.Conversation.History
import ChatClient.Failure

/-! The messages that stand for a conversation on the wire. -/

namespace ChatClient

open Json

/-- The roles that the server knows. -/
inductive MessageRole where
  | system
  | user
  | assistant
  deriving DecidableEq, Repr

namespace MessageRole

def name : MessageRole → String
  | .system => "system"
  | .user => "user"
  | .assistant => "assistant"

def named : List (String × MessageRole) :=
  [.system, .user, .assistant].map fun role => (role.name, role)

/-- Tool results have no role of their own and are sent as the assistant's. -/
def ofRole : Role → MessageRole
  | .system => .system
  | .user => .user
  | .assistant => .assistant
  | .tool => .assistant

def decode : Decoder MessageRole :=
  Decode.oneOf named

def toJson (role : MessageRole) : Value :=
  .string role.name

end MessageRole

structure Message where
  role : MessageRole
  content : String
  deriving DecidableEq

namespace Message

/-- The message of a turn, with the plain role. -/
def ofTurn (turn : Turn) : Message :=
  ⟨.ofRole turn.role, turn.text⟩

def decode : Decoder Message :=
  record "WireMessage" [slot "role", slot "content"] fun parts =>
    Message.mk <$> parts.required "role" MessageRole.decode
      <*> parts.required "content" Decode.string

def toJson (message : Message) : Value :=
  .object (field "role" message.role.toJson ++ field "content" (.string message.content))

/-- The server answers the user only, so the last message is sent as the user's. -/
def endOnUser : List Message → List Message
  | [] => []
  | [last] => [{ last with role := .user }]
  | first :: second :: rest => first :: endOnUser (second :: rest)

end Message

/-- The messages for a conversation. An empty one has nothing to send. -/
def History.messages (history : History) : Except ClientError (List Message) :=
  if history.turns.isEmpty then .error .emptyHistory
  else .ok (Message.endOnUser (history.turns.map Message.ofTurn))

end ChatClient
