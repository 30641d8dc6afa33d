import ChatClient.Json.Decoder

/-! The models that the server offers under fixed ids. Any id may be used in calls; these are the
common ones. -/

namespace ChatClient

open Json

inductive Model where
  | mistralTiny
  | mistralSmallLatest
  | mistralMediumLatest
  | mistralLargeLatest
  | openMistral7b
  | openMixtral8x7b
  | openMixtral8x22b
  | codestralLatest
  | mistralEmbed
  deriving DecidableEq, Repr

namespace Model

def all : List Model :=
  [.mistralTiny, .mistralSmallLatest, .mistralMediumLatest, .mistralLargeLatest, .openMistral7b,
    .openMixtral8x7b, .openMixtral8x22b, .codestralLatest, .mistralEmbed]

def id : Model → String
  | .mistralTiny => "mistral-tiny"
  | .mistralSmallLatest => "mistral-small-latest"
  | .mistralMediumLatest => "mistral-medium-latest"
  | .mistralLargeLatest => "mistral-large-latest"
  | .openMistral7b => "open-mistral-7b"
  | .openMixtral8x7b => "open-mixtral-8x7b"
  | .openMixtral8x22b => "open-mixtral-8x22b"
  | .codestralLatest => "codestral-latest"
  | .mistralEmbed => "mistral-embed"

/-- The models, each with its id. -/
def named : List (String × Model) :=
  all.map fun model => (model.id, model)

/-- The model with an id, spelled exactly so. -/
def ofId? (id : String) : Option Model :=
  named.lookup id

/-- What is reported for an id that no model has. -/
def notFoundMessage : String := "Matching variant not found"

/-- Whether a model makes embeddings instead of completions. -/
def isEmbedding : Model → Bool
  | .mistralEmbed => true
  | _ => false

def decode : Decoder Model :=
  Decode.oneOf named

def toJson (model : Model) : Value :=
  .string model.id

end Model

end ChatClient
