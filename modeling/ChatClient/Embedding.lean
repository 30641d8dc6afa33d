import ChatClient.Completion.Response
import ChatClient.Failure
import ChatClient.Number.Numeral
import ChatClient.Number.Shortest

/-! Embeddings: texts to be turned into vectors, and the vectors that come back. -/

namespace ChatClient

open Json

structure EmbeddingsRequest where
  model : String
  /-- The texts; one vector is returned for each. -/
  input : List String
  deriving DecidableEq

namespace EmbeddingsRequest

def decode : Decoder EmbeddingsRequest :=
  record "EmbeddingsRequest" [slot "model", slot "input"] fun parts =>
    EmbeddingsRequest.mk <$> parts.required "model" Decode.string
      <*> parts.required "input" (Decode.list Decode.string)

def toJson (request : EmbeddingsRequest) : Value :=
  .object (field "model" (.string request.model) ++
    field "input" (.array (request.input.map .string)))

end EmbeddingsRequest

abbrev Vector32 := List Binary32

/-- A component is shown with the fewest digits that single precision needs. -/
def componentToJson (x : Binary32) : Value :=
  if x.isFinite then
    let shortest := Decimal.shortest DecimalStyle.json.tie x
    .float (Numeral.ofDecimal x.negative shortest.digits shortest.exponent)
  else .null

/-- One vector, and the place of its text among the texts sent. -/
structure EmbeddingData where
  object : String
  embedding : Vector32
  index : UInt32
  deriving DecidableEq

namespace EmbeddingData

def decode : Decoder EmbeddingData :=
  record "EmbeddingData" [slot "object", slot "embedding", slot "index"] fun parts =>
    EmbeddingData.mk <$> parts.withDefault "object" "" Decode.string
      <*> parts.required "embedding" (Decode.list Decode.binary32)
      <*> parts.required "index" Decode.uint32

def toJson (data : EmbeddingData) : Value :=
  .object (field "object" (.string data.object) ++
    field "embedding" (.array (data.embedding.map componentToJson)) ++
    field "index" (.nat data.index.toNat))

end EmbeddingData

structure EmbeddingsResponse where
  id : String
  object : String
  data : List EmbeddingData
  model : String
  usage : Option Usage
  deriving DecidableEq

namespace EmbeddingsResponse

def decode : Decoder EmbeddingsResponse :=
  record "EmbeddingsResponse"
      [slot "id", slot "object", slot "data", slot "model", slot "usage"] fun parts =>
    EmbeddingsResponse.mk <$> parts.withDefault "id" "" Decode.string
      <*> parts.withDefault "object" "" Decode.string
      <*> parts.withDefault "data" [] (Decode.list EmbeddingData.decode)
      <*> parts.withDefault "model" "" Decode.string
      <*> parts.nullable "usage" Usage.decode

def toJson (response : EmbeddingsResponse) : Value :=
  .object (field "id" (.string response.id) ++ field "object" (.string response.object) ++
    field "data" (.array (response.data.map EmbeddingData.toJson)) ++
    field "model" (.string response.model) ++ field? "usage" (response.usage.map Usage.toJson))

/-- The vectors in the order of their indices, provided that there is one for each of `count`
texts. -/
def vectors (response : EmbeddingsResponse) (count : Nat) : Except ClientError (List Vector32) :=
  if response.data.length ≠ count then
    .error (.shape (.embeddingCount count response.data.length))
  else
    let sorted := response.data.mergeSort fun a b => a.index ≤ b.index
    .ok (sorted.map (·.embedding))

end EmbeddingsResponse

end ChatClient
