import ChatClient.Http.Request
import ChatClient.Stream.LineReader

/-! Exchanges with a server. What the server does is given as data, so a call is a function of the
request, of that data, and of whether the caller has cancelled. -/

namespace ChatClient.Http

open Json

/-- How a body goes on after the bytes that arrive. -/
inductive Ending where
  | complete
  /-- The connection breaks. -/
  | broken
  /-- Nothing more comes until the caller cancels. -/
  | stalled
  deriving DecidableEq, Repr

/-- A response: its status, the chunks of its body, and how the body ends. -/
structure Response where
  status : Nat
  chunks : List (List UInt8)
  ending : Ending
  deriving DecidableEq

/-- What a server does when a request is sent to it. -/
inductive Exchange where
  /-- No connection is made. -/
  | unreachable
  /-- The request arrives and nothing comes back until the caller cancels. -/
  | silent
  | answered (response : Response)
  deriving DecidableEq

/-- What a call comes to: its result, the requests that reached the server, and whether the caller
has cancelled by the end of it. -/
structure Outcome (ε α : Type) where
  result : Except ε α
  requests : List Request
  cancelled : Bool

namespace Outcome

variable {ε ε' α β : Type}

/-- A call that ends before anything is sent. -/
def unsent (result : Except ε α) (cancelled : Bool) : Outcome ε α :=
  ⟨result, [], cancelled⟩

def mapError (f : ε → ε') (outcome : Outcome ε α) : Outcome ε' α :=
  { outcome with result := outcome.result.mapError f }

/-- Goes on with a result that is not a failure. -/
def bindResult (outcome : Outcome ε α) (f : α → Except ε β) : Outcome ε β :=
  { outcome with result := outcome.result.bind f }

end Outcome

namespace Response

/-- The whole body, and whether the caller has cancelled while waiting for it. -/
def wholeBody (response : Response) : Except CallError (List UInt8) × Bool :=
  match response.ending with
  | .complete => (.ok response.chunks.flatten, false)
  | .broken => (.error .exchange, false)
  | .stalled => (.error .cancelled, true)

/-- The reads that the body answers with when it is taken as a stream. -/
def reads (response : Response) : List Read :=
  response.chunks.map Read.bytes ++
    match response.ending with
    | .complete => []
    | .broken => [.failure .exchange]
    | .stalled => [.stall]

/-- The failure of a response that is not a success, and whether the caller has cancelled while its
body was read. -/
def failure (response : Response) : CallError × Bool :=
  match response.wholeBody with
  | (.ok body, cancelled) => (.status (.ofResponse response.status body), cancelled)
  | (.error error, cancelled) => (error, cancelled)

end Response

/-- What comes of a request that has been built and is being sent. -/
def Exchange.run (exchange : Exchange) (request : Request) : Outcome CallError Response :=
  match exchange with
  | .unreachable => .unsent (.error .exchange) false
  | .silent => ⟨.error .cancelled, [request], true⟩
  | .answered response =>
    if isSuccess response.status then ⟨.ok response, [request], false⟩
    else
      let (error, cancelled) := response.failure
      ⟨.error error, [request], cancelled⟩

variable {α : Type}

/-- Sends a request with an optional body. A response with a success status is handed on unread;
any other is read to its end and becomes a failure. -/
def send (config : ServerConfig) (endpoint : Endpoint) (body : Option Value) (cancelled : Bool)
    (exchange : Exchange) : Outcome CallError Response :=
  if cancelled then .unsent (.error .cancelled) true
  else
    match config.build endpoint with
    | none => .unsent (.error .exchange) false
    | some request =>
      if request.url.isHttp then exchange.run (request.withBody? body)
      else .unsent (.error .exchange) false

/-- Decodes the whole body of a successful response. -/
def decodeBody (decode : Decoder α) (status : Nat) (body : List UInt8) : Except CallError α :=
  match decodeBytes decode body with
  | .ok a => .ok a
  | .error error => .error (.badBody status error (Text.Utf8.decodeLossy body))

/-- Sends a request and decodes the whole answer. -/
def requestJson (decode : Decoder α) (config : ServerConfig) (endpoint : Endpoint)
    (body : Option Value) (cancelled : Bool) (exchange : Exchange) : Outcome CallError α :=
  let sent := send config endpoint body cancelled exchange
  match sent.result with
  | .error error => ⟨.error error, sent.requests, sent.cancelled⟩
  | .ok response =>
    match response.wholeBody with
    | (.error error, stopped) => ⟨.error error, sent.requests, sent.cancelled || stopped⟩
    | (.ok bytes, _) => ⟨decodeBody decode response.status bytes, sent.requests, sent.cancelled⟩

/-- Sends a request and opens the answer as a line stream. -/
def openStream (config : ServerConfig) (endpoint : Endpoint) (body : Option Value)
    (cancelled : Bool) (exchange : Exchange) : Outcome CallError LineReader :=
  (send config endpoint body cancelled exchange).bindResult fun response =>
    .ok (.ofReads response.reads false)

end ChatClient.Http
