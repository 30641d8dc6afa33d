import ChatClient.Completion.Request
import ChatClient.Embedding
import ChatClient.Http.Exchange

/-! The client of one server: who calls, and where. -/

namespace ChatClient

open Json Http

/-- The server that is called unless another is named. -/
def defaultBaseUrl : String := "https://api.mistral.ai"

/-- How the client introduces itself. -/
def userAgent : String := "mistral-connector/0.1.0"

structure Client where
  apiKey : String
  baseUrl : String
  deriving DecidableEq

/-- The variables of the environment that a client is set up from. -/
structure Environment where
  apiKey : Option String
  baseUrl : Option String

namespace Client

def withKey (apiKey : String) : Client :=
  ⟨apiKey, defaultBaseUrl⟩

/-- A description that does not give the key away. -/
def describe (client : Client) : String :=
  "Mistral \x7b api_key: \"[REDACTED]\", base_url: " ++ Text.quoted client.baseUrl ++ ", .. \x7d"

/-- A client set up from the environment. A blank key counts as missing, and a blank base address
leaves the default one. -/
def ofEnvironment (environment : Environment) : Except ClientError Client :=
  match environment.apiKey.filter fun key => !Text.isBlankText key with
  | none => .error .missingApiKey
  | some apiKey =>
    .ok ⟨apiKey, (environment.baseUrl.filter fun url => !Text.isBlankText url).getD defaultBaseUrl⟩

def config (client : Client) : ServerConfig where
  baseUrl := client.baseUrl
  credential := some (.bearer client.apiKey)
  defaultHeaders := HeaderMap.empty.insert "accept" "application/json"
  userAgent := some userAgent

def completions : Endpoint :=
  .post "v1/chat/completions"

/-- The same endpoint, asked for a stream of events. -/
def completionStream : Endpoint :=
  completions.withHeader "accept" "text/event-stream"

def embeddings : Endpoint :=
  .post "v1/embeddings"

/-- Asks for a whole completion. -/
def complete (client : Client) (request : ChatRequest) (cancelled : Bool) (exchange : Exchange) :
    Outcome ClientError ChatResponse :=
  (requestJson ChatResponse.decode client.config completions (some request.toJson) cancelled
    exchange).mapError .call

/-- Asks for embeddings. -/
def embed (client : Client) (request : EmbeddingsRequest) (cancelled : Bool)
    (exchange : Exchange) : Outcome ClientError EmbeddingsResponse :=
  (requestJson EmbeddingsResponse.decode client.config embeddings (some request.toJson) cancelled
    exchange).mapError .call

/-- Asks for a completion as a stream, whatever the request says about streaming. -/
def openCompletion (client : Client) (request : ChatRequest) (cancelled : Bool)
    (exchange : Exchange) : Outcome ClientError LineReader :=
  (openStream client.config completionStream (some { request with stream := true }.toJson)
    cancelled exchange).mapError .call

end Client

end ChatClient
