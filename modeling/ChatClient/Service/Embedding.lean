import ChatClient.Service.Chat

/-! Embeddings for a host: one vector for each text, in the order of the texts. -/

namespace ChatClient

open Http

/-- Embeddings by one model of one server. -/
structure EmbeddingService where
  client : Client
  model : String
  deriving DecidableEq

namespace EmbeddingService

/-- A service with a client set up from the environment. -/
def ofEnvironment (environment : Environment) (model : String) :
    Except ClientError EmbeddingService :=
  (Client.ofEnvironment environment).map fun client => ⟨client, model⟩

def attributes (service : EmbeddingService) : List (String × String) :=
  modelAttributes service.model

/-- The vectors of some texts. For no texts nothing is sent. -/
def embed (service : EmbeddingService) (texts : List String) (cancelled : Bool)
    (exchange : Exchange) : Outcome ClientError (List Vector32) :=
  if texts.isEmpty then .unsent (.ok []) cancelled
  else
    (service.client.embed ⟨service.model, texts⟩ cancelled exchange).bindResult fun response =>
      response.vectors texts.length

end EmbeddingService

end ChatClient
