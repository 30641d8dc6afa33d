import ChatClient.Client

/-! Sending. A call comes to nothing before it is sent, or it reaches its server, and from there on
the exchange alone decides: what is answered with success is handed on as it is. The two ways of
asking for a completion reach the same servers: they differ in one header, and every value of that
is well-formed. -/
namespace ChatClient.Sending
open Http Json

/-- Whether requests for an endpoint can be built and go somewhere. -/
def Reaches (config : ServerConfig) (endpoint : Endpoint) : Prop :=
  (config.build endpoint).any fun request => request.url.isHttp

instance (config : ServerConfig) (endpoint : Endpoint) : Decidable (Reaches config endpoint) :=
  inferInstanceAs (Decidable (_ = true))

section Building
variable {config : ServerConfig} {endpoint other : Endpoint}

/-- Of an endpoint only its method, its path and whether its headers are well-formed decide whether
it can be reached. -/
theorem reaches_congr (method : endpoint.method = other.method) (path : endpoint.path = other.path)
    (headers : (config.headers endpoint).all Header.isValid =
      (config.headers other).all Header.isValid) :
    Reaches config endpoint ↔ Reaches config other := by
  have url : config.url endpoint.path = config.url other.path := by rw [path]
  simp only [Reaches, ServerConfig.build, url, headers, method]
  cases Url.ofString? (config.url other.path) with
  | none => rfl
  | some url =>
    cases (config.headers other).all Header.isValid <;> rfl

/-- A server that can be asked for a whole completion can be asked for a streamed one. -/
theorem reaches_streamed (client : Client) :
    Reaches client.config Client.completionStream ↔ Reaches client.config Client.completions := by
  refine reaches_congr rfl rfl ?_
  have whole : client.config.headers Client.completions =
      [Credential.header (.bearer client.apiKey), ⟨"accept", "application/json"⟩,
        ⟨"user-agent", userAgent⟩] := rfl
  have streamed : client.config.headers Client.completionStream =
      [Credential.header (.bearer client.apiKey), ⟨"accept", "text/event-stream"⟩,
        ⟨"user-agent", userAgent⟩] := rfl
  have json : Header.isValid ⟨"accept", "application/json"⟩ = true := by decide +kernel
  have events : Header.isValid ⟨"accept", "text/event-stream"⟩ = true := by decide +kernel
  simp only [whole, streamed, List.all_cons, json, events]

/-- A key that can be sent in a header is all that it takes to reach the usual server. -/
theorem reaches_with_key {key : String}
    (valid : (Credential.header (.bearer key)).isValid = true) :
    Reaches (Client.withKey key).config Client.completions := by
  have headers : (Client.withKey key).config.headers Client.completions =
      [Credential.header (.bearer key), ⟨"accept", "application/json"⟩,
        ⟨"user-agent", userAgent⟩] := rfl
  have others : [⟨"accept", "application/json"⟩, ⟨"user-agent", userAgent⟩].all Header.isValid =
      true := by decide +kernel
  have all : ((Client.withKey key).config.headers Client.completions).all Header.isValid = true := by
    rw [headers, List.all_cons, valid, others, Bool.and_self]
  have url : (Client.withKey key).config.url Client.completions.path =
      joinUrl defaultBaseUrl Client.completions.path := rfl
  have web : (Url.ofString? (joinUrl defaultBaseUrl Client.completions.path)).any
      (fun url => (Request.start Client.completions.method url).url.isHttp) = true := by
    decide +kernel
  simp only [Reaches, ServerConfig.build, url, all, ↓reduceIte]
  cases parsed : Url.ofString? (joinUrl defaultBaseUrl Client.completions.path) with
  | none =>
    rw [parsed] at web
    cases web
  | some url =>
    rw [parsed] at web
    exact web

/-- A request begins with what its address says of the user, and with nothing else. -/
theorem start_headers (method : String) (url : Url) :
    ∀ header ∈ (Request.start method url).headers, header.name = "authorization" := by
  unfold Request.start
  split <;> simp [loginHeader]

end Building

section Outcomes
variable {config : ServerConfig} {endpoint : Endpoint} {exchange : Exchange} {cancelled : Bool}
  {response : Response}

/-- A request gets the body that is sent with it, and has none before that. -/
private theorem body_of_built {request : Request} (built : config.build endpoint = some request)
    (body : Option Value) : (request.withBody? body).body = body := by
  cases body with
  | some body => rfl
  | none =>
    have empty : ∀ method url, (Request.start method url).body = none := by
      intro method url
      unfold Request.start
      split <;> rfl
    unfold ServerConfig.build at built
    split at built
    · cases built
    · simp only [Option.ite_none_right_eq_some, Option.some.injEq] at built
      rw [← built.2]
      exact empty _ _

theorem send_cancelled (body : Option Value) :
    send config endpoint body true exchange = .unsent (.error .cancelled) true := rfl

theorem send_unreached (body : Option Value) (unreached : ¬Reaches config endpoint) :
    send config endpoint body false exchange = .unsent (.error .exchange) false := by
  unfold Reaches at unreached
  cases built : config.build endpoint with
  | none => simp [send, built]
  | some request =>
    have foreign : request.url.isHttp = false := by simpa [built] using unreached
    simp [send, built, foreign]

/-- Behind the checks, what comes of a call is up to the exchange. -/
theorem send_reached (exchange : Exchange) (body : Option Value)
    (reaches : Reaches config endpoint) :
    ∃ request : Request, request.body = body ∧
      send config endpoint body false exchange = exchange.run request := by
  unfold Reaches at reaches
  cases built : config.build endpoint with
  | none => simp [built] at reaches
  | some request =>
    have web : request.url.isHttp = true := by simpa [built] using reaches
    exact ⟨request.withBody? body, body_of_built built body, by simp [send, built, web]⟩

theorem run_requests (request : Request) :
    ∀ sent ∈ (exchange.run request).requests, sent = request := by
  cases exchange with
  | unreachable => simp [Exchange.run, Outcome.unsent]
  | silent => simp [Exchange.run]
  | answered response =>
    by_cases success : isSuccess response.status = true <;> simp [Exchange.run, success]

/-- Whatever is sent has the body that it was given. -/
theorem send_requests (body : Option Value) :
    ∀ request ∈ (send config endpoint body cancelled exchange).requests, request.body = body := by
  intro request sent
  cases cancelled with
  | true =>
    rw [send_cancelled] at sent
    cases sent
  | false =>
    by_cases reaches : Reaches config endpoint
    · obtain ⟨built, own, outcome⟩ := send_reached exchange body reaches
      rw [outcome] at sent
      rw [run_requests built request sent, own]
    · rw [send_unreached body reaches] at sent
      cases sent

/-- The call gets the head of a response, and that tells of success. -/
structure Succeeds (config : ServerConfig) (endpoint : Endpoint) (cancelled : Bool)
    (exchange : Exchange) (response : Response) : Prop where
  going : cancelled = false
  reaches : Reaches config endpoint
  answered : exchange = .answered response
  success : isSuccess response.status = true

theorem run_ok_iff (request : Request) :
    (exchange.run request).result = .ok response ↔
      exchange = .answered response ∧ isSuccess response.status = true := by
  cases exchange with
  | unreachable => simp [Exchange.run, Outcome.unsent]
  | silent => simp [Exchange.run]
  | answered given =>
    by_cases success : isSuccess given.status = true
    · simp only [Exchange.run, success, ↓reduceIte, Except.ok.injEq, Exchange.answered.injEq]
      exact ⟨fun same => ⟨same, same ▸ success⟩, fun same => same.1⟩
    · simp only [Exchange.run, success, Bool.false_eq_true, ↓reduceIte, reduceCtorEq,
        Exchange.answered.injEq, false_iff, not_and]
      rintro rfl
      exact success

/-- Sending hands on a response exactly when it is a success and nothing came in between. -/
theorem send_ok_iff (body : Option Value) :
    (send config endpoint body cancelled exchange).result = .ok response ↔
      Succeeds config endpoint cancelled exchange response := by
  constructor
  · intro ok
    cases cancelled with
    | true =>
      rw [send_cancelled] at ok
      cases ok
    | false =>
      by_cases reaches : Reaches config endpoint
      · obtain ⟨request, -, sent⟩ := send_reached exchange body reaches
        rw [sent, run_ok_iff] at ok
        exact ⟨rfl, reaches, ok.1, ok.2⟩
      · rw [send_unreached body reaches] at ok
        cases ok
  · rintro ⟨rfl, reaches, answered, success⟩
    obtain ⟨request, -, sent⟩ := send_reached exchange body reaches
    rw [sent, run_ok_iff]
    exact ⟨answered, success⟩

section Whole
variable {α : Type} {decode : Decoder α} {answer : α}

theorem request_json_result (decode : Decoder α) (body : Option Value) :
    (requestJson decode config endpoint body cancelled exchange).result =
      (send config endpoint body cancelled exchange).result.bind fun response =>
        response.wholeBody.1.bind (decodeBody decode response.status) := by
  cases sent : (send config endpoint body cancelled exchange).result with
  | error error => simp [requestJson, sent, Except.bind]
  | ok response =>
    rcases read : response.wholeBody with ⟨bytes, stopped⟩
    cases bytes <;> simp [requestJson, sent, read, Except.bind]

theorem request_json_requests (decode : Decoder α) (body : Option Value) :
    (requestJson decode config endpoint body cancelled exchange).requests =
      (send config endpoint body cancelled exchange).requests := by
  unfold requestJson
  dsimp only
  split
  · rfl
  · split <;> rfl

theorem whole_body_ok_iff {body : List UInt8} :
    response.wholeBody.1 = .ok body ↔
      response.ending = .complete ∧ response.chunks.flatten = body := by
  unfold Response.wholeBody
  cases response.ending <;> simp

theorem decode_body_ok_iff {status : Nat} {body : List UInt8} :
    decodeBody decode status body = .ok answer ↔ decodeBytes decode body = .ok answer := by
  unfold decodeBody
  cases decodeBytes decode body <;> simp

private theorem bind_ok_iff {ε β γ : Type} {x : Except ε β} {f : β → Except ε γ} {c : γ} :
    x.bind f = .ok c ↔ ∃ b, x = .ok b ∧ f b = .ok c := by
  cases x <;> simp [Except.bind]

/-- A whole answer takes a success with a complete body that decodes. -/
theorem request_json_ok_iff (body : Option Value) :
    (requestJson decode config endpoint body cancelled exchange).result = .ok answer ↔
      ∃ response, Succeeds config endpoint cancelled exchange response ∧
        response.ending = .complete ∧ decodeBytes decode response.chunks.flatten = .ok answer := by
  rw [request_json_result, bind_ok_iff]
  simp only [send_ok_iff, bind_ok_iff, whole_body_ok_iff, decode_body_ok_iff, and_assoc,
    exists_and_left, exists_eq_left']

/-- What goes wrong in a call goes wrong for its caller in the same way. -/
theorem map_call_ok_iff (outcome : Outcome CallError α) :
    (outcome.mapError ClientError.call).result = .ok answer ↔ outcome.result = .ok answer := by
  rcases outcome with ⟨result, requests, cancelled⟩
  cases result with
  | ok value =>
    constructor <;> intro same <;> cases same <;> rfl
  | error => exact iff_of_false nofun nofun

theorem map_call_error {outcome : Outcome CallError α} {error : CallError}
    (failed : outcome.result = .error error) :
    (outcome.mapError ClientError.call).result = .error (.call error) := by
  rw [Outcome.mapError, failed]
  rfl

end Whole

end Outcomes

/-- There is a request for every conversation that has begun. -/
theorem request_for_history {history : History} (id : String) (settings : Option Settings)
    (purpose : Purpose) (stream : Bool) (spoken : history.turns ≠ []) :
    ∃ request, ChatRequest.forHistory id history settings purpose stream = .ok request := by
  simp [ChatRequest.forHistory, History.messages, spoken, Except.map]

section Answers
variable {config : ServerConfig} {endpoint : Endpoint} {client : Client} {response : Response}

/-- A successful answer is handed on unread. -/
theorem send_success (body : Option Value) (reaches : Reaches config endpoint)
    (success : isSuccess response.status = true) :
    ∃ request, send config endpoint body false (.answered response) =
      ⟨.ok response, [request], false⟩ := by
  obtain ⟨request, -, sent⟩ := send_reached (.answered response) body reaches
  exact ⟨request, by simp [sent, Exchange.run, success]⟩

/-- A whole body that comes with success is decoded, whatever has been asked. -/
theorem complete_success (request : ChatRequest)
    (reaches : Reaches client.config Client.completions)
    (success : isSuccess response.status = true) (whole : response.ending = .complete) :
    (client.complete request false (.answered response)).result =
      (decodeBody ChatResponse.decode response.status response.chunks.flatten).mapError .call := by
  obtain ⟨_, sent⟩ := send_success (some request.toJson) reaches success
  simp [Client.complete, requestJson, sent, Response.wholeBody, whole, Outcome.mapError]

/-- A body that comes with success is opened as a stream of its own reads. -/
theorem open_success (request : ChatRequest) (reaches : Reaches client.config Client.completions)
    (success : isSuccess response.status = true) :
    ∃ requests, client.openCompletion request false (.answered response) =
      ⟨.ok (.ofReads response.reads false), requests, false⟩ := by
  obtain ⟨received, sent⟩ := send_success (some { request with stream := true }.toJson)
    ((reaches_streamed client).mpr reaches) success
  refine ⟨[received], ?_⟩
  rw [Client.openCompletion, openStream, sent]
  rfl

end Answers

end ChatClient.Sending
