import ChatClient.Http.Status
import ChatClient.Json.Decoder
import ChatClient.Text.Utf8

/-! Everything that can go wrong with a call. `CallError` is what happens between sending a request
and reading its answer; `ClientError` adds what goes wrong before and after. Nothing is retried. -/

namespace ChatClient

open Json

/-- A response that is not a success: its code, its body as text, and the message that the body
carries in one of the usual layouts. -/
structure StatusFailure where
  code : Nat
  body : String
  detail : Option String
  deriving DecidableEq

namespace StatusFailure

def reason (failure : StatusFailure) : Option String :=
  Http.reason? failure.code

/-- The message inside an error body: under `error` and `message`, as the text of `error`, or as the
text of `message`, the first of these that is a text. -/
def detailOf (body : Value) : Option String :=
  let error := body.get? "error"
  ((error.bind (·.get? "message")).bind (·.string?)) <|> (error.bind (·.string?)) <|>
    ((body.get? "message").bind (·.string?))

/-- The failure that a response with this code and this whole body stands for. -/
def ofResponse (code : Nat) (body : List UInt8) : StatusFailure where
  code := code
  body := Text.Utf8.decodeLossy body
  detail := (decodeBytes Decode.value body).toOption.bind detailOf

def message (failure : StatusFailure) : String :=
  "HTTP " ++ toString failure.code ++ ": " ++ failure.detail.getD failure.body

end StatusFailure

/-- A failure of one exchange with the server. -/
inductive CallError where
  /-- The exchange itself broke: nothing was sent, no answer came, or its body broke off. -/
  | exchange
  | status (failure : StatusFailure)
  /-- A line of a stream does not hold the event it should. -/
  | badEvent (error : Json.Error) (line : String)
  /-- A whole body does not hold the answer it should. -/
  | badBody (code : Nat) (error : Json.Error) (body : String)
  /-- A byte source reports a failure of its own. -/
  | badSource (why : String)
  | notUtf8 (fault : Text.Utf8.Fault)
  | cancelled
  deriving DecidableEq

namespace CallError

def message : CallError → String
  | .exchange => "HTTP request failed"
  | .status failure => failure.message
  | .badEvent error line =>
    "Invalid event data: JSON parse error: " ++ error.message ++ "; line: " ++ line
  | .badBody code error body =>
    "Unexpected response: HTTP " ++ toString code ++ " but failed to decode JSON: " ++
      error.message ++ "; body: " ++ body
  | .badSource why => "Unexpected response: " ++ why
  | .notUtf8 fault => "UTF-8 conversion error: " ++ fault.message
  | .cancelled => "Request was cancelled"

/-- The code of a response that was not a success. -/
def statusCode : CallError → Option Nat
  | .status failure => some failure.code
  | _ => none

/-- The body of a response that was not a success. -/
def rawBody : CallError → Option String
  | .status failure => some failure.body
  | _ => none

end CallError

/-- What a successful answer lacks. -/
inductive ShapeFault where
  | noChoices
  | embeddingCount (expected got : Nat)
  deriving DecidableEq

def ShapeFault.message : ShapeFault → String
  | .noChoices => "response contained no choices"
  | .embeddingCount expected got =>
    "expected " ++ toString expected ++ " embeddings, got " ++ toString got

/-- Every way a call of the client can fail. -/
inductive ClientError where
  | missingApiKey
  /-- There is no turn to send. -/
  | emptyHistory
  | invalidSettings (error : Json.Error)
  | shape (fault : ShapeFault)
  | call (error : CallError)
  deriving DecidableEq

namespace ClientError

def message : ClientError → String
  | .missingApiKey => "Missing API key: set MISTRAL_API_KEY"
  | .emptyHistory => "Conversation history is empty"
  | .invalidSettings error => "Invalid execution settings: " ++ error.message
  | .shape fault => "Unexpected response shape: " ++ fault.message
  | .call error => "Mistral API error: " ++ error.message

def statusCode : ClientError → Option Nat
  | .call error => error.statusCode
  | _ => none

def rawBody : ClientError → Option String
  | .call error => error.rawBody
  | _ => none

def isCancelled : ClientError → Bool
  | .call .cancelled => true
  | _ => false

/-- Whether a successful response had the wrong shape. -/
def isShapeError : ClientError → Bool
  | .shape _ => true
  | .call (.badEvent ..) => true
  | .call (.badBody ..) => true
  | .call (.badSource _) => true
  | _ => false

end ClientError

end ChatClient
