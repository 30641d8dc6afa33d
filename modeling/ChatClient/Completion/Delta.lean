import ChatClient.Completion.Response

/-! Deltas: what a chunk adds to each of its choices, one at a time. -/

namespace ChatClient

open Json

/-- One increment of a streamed completion. -/
structure Delta where
  choiceIndex : UInt32
  role : Option String
  /-- The text added, empty when there is none. -/
  content : String
  finishReason : Option String
  /-- The model that the chunk names, if it does. -/
  model : Option String
  deriving DecidableEq

namespace Delta

/-- Whether the server has marked its completion as finished. -/
def isFinal (delta : Delta) : Bool :=
  match delta.finishReason with
  | some reason => !reason.isEmpty
  | none => false

def decode : Decoder Delta :=
  record "StreamDelta"
      [slot "choice_index", slot "role", slot "content", slot "finish_reason", slot "model"]
    fun parts =>
      Delta.mk <$> parts.required "choice_index" Decode.uint32
        <*> parts.nullable "role" Decode.string
        <*> parts.required "content" Decode.string
        <*> parts.nullable "finish_reason" Decode.string
        <*> parts.nullable "model" Decode.string

def toJson (delta : Delta) : Value :=
  .object (field "choice_index" (.nat delta.choiceIndex.toNat) ++
    field "role" (.ofOption .string delta.role) ++
    field "content" (.string delta.content) ++
    field "finish_reason" (.ofOption .string delta.finishReason) ++
    field "model" (.ofOption .string delta.model))

end Delta

/-- The delta of one choice of a chunk that names a model or none. -/
def StreamChoice.toDelta (model : Option String) (choice : StreamChoice) : Delta where
  choiceIndex := choice.index
  role := choice.delta.role
  content := choice.delta.content.getD ""
  finishReason := choice.finishReason
  model := model

/-- The model that a chunk names; the empty name names none. -/
def Chunk.namedModel (chunk : Chunk) : Option String :=
  if chunk.model.isEmpty then none else some chunk.model

/-- One delta for each choice, in the order in which the server lists them. -/
def Chunk.deltas (chunk : Chunk) : List Delta :=
  chunk.choices.map (StreamChoice.toDelta chunk.namedModel)

end ChatClient
