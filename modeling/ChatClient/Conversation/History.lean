import ChatClient.Json.Record

/-! Conversations as their owner keeps them: turns in the order in which they were spoken. -/

namespace ChatClient

open Json

/-- Who speaks in a turn. -/
inductive Role where
  | system
  | user
  | assistant
  | tool
  deriving DecidableEq, Repr

namespace Role

def name : Role → String
  | .system => "system"
  | .user => "user"
  | .assistant => "assistant"
  | .tool => "tool"

/-- The roles in order, each with its name. -/
def named : List (String × Role) :=
  [.system, .user, .assistant, .tool].map fun role => (role.name, role)

def decode : Decoder Role :=
  Decode.oneOf named

def toJson (role : Role) : Value :=
  .string role.name

end Role

/-- One turn of a conversation. The model is named on turns that a model has written. -/
structure Turn where
  role : Role
  text : String
  modelId : Option String
  deriving DecidableEq

namespace Turn

def of (role : Role) (text : String) : Turn :=
  ⟨role, text, none⟩

/-- A turn written by a model; an empty model id is left out. -/
def byModel (text modelId : String) : Turn :=
  ⟨.assistant, text, if modelId.isEmpty then none else some modelId⟩

def withModelId (turn : Turn) (modelId : String) : Turn :=
  { turn with modelId := some modelId }

def decode : Decoder Turn :=
  record "ConversationTurn" [slot "role", slot "text", slot "model_id"] fun parts =>
    Turn.mk <$> parts.required "role" Role.decode
      <*> parts.required "text" Decode.string
      <*> parts.withDefault "model_id" none (Decode.optional Decode.string)

def toJson (turn : Turn) : Value :=
  .object (field "role" turn.role.toJson ++ field "text" (.string turn.text) ++
    field? "model_id" (turn.modelId.map .string))

end Turn

/-- A conversation so far. -/
structure History where
  turns : List Turn
  deriving DecidableEq

namespace History

def empty : History :=
  ⟨[]⟩

/-- Adds a turn at the end. -/
def push (history : History) (turn : Turn) : History :=
  ⟨history.turns ++ [turn]⟩

def add (history : History) (role : Role) (text : String) : History :=
  history.push (.of role text)

def decode : Decoder History
  | node => (Decode.list Turn.decode node).map History.mk

def toJson (history : History) : Value :=
  .array (history.turns.map Turn.toJson)

end History

end ChatClient
