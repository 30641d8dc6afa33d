import ChatClient.Proofs.Completion.Building
import ChatClient.Proofs.Service.ReplyHistory
import ChatClient.Proofs.Service.Sending

/-! The requests that calls send. Whether a request goes out, and what it says, is known before
anything comes back: it takes an address and headers that a request can be built from, a caller who
has not cancelled, and somebody to receive it. A stream sends its request when its first item is
asked for, and whatever is done with it behind that sends nothing more. -/
namespace ChatClient.SentRequests
open Http Json Building ReplyHistory Sending

/-- The request that a body goes out in, unless it cannot be built or leads to no server of its
kind. -/
def outgoing? (config : ServerConfig) (endpoint : Endpoint) (body : Value) : Option Request :=
  ((config.build endpoint).filter fun request => request.url.isHttp).map (·.withBody body)

/-- What a server gets to see of a call. -/
def received (config : ServerConfig) (endpoint : Endpoint) (body : Value) (cancelled : Bool)
    (exchange : Exchange) : List Request :=
  if cancelled = true ∨ exchange = .unreachable then [] else (outgoing? config endpoint body).toList

section Calls
variable {config : ServerConfig} {endpoint : Endpoint} {exchange : Exchange} {cancelled : Bool}

theorem outgoing_iff_reaches (body : Value) :
    (outgoing? config endpoint body).isSome ↔ Reaches config endpoint := by
  unfold outgoing? Reaches
  cases config.build endpoint with
  | none => simp
  | some request => cases web : request.url.isHttp <;> simp [Option.filter, web]

theorem run_received (request : Request) :
    (exchange.run request).requests = if exchange = .unreachable then [] else [request] := by
  cases exchange with
  | unreachable => simp [Exchange.run, Outcome.unsent]
  | silent => simp [Exchange.run]
  | answered response => cases success : isSuccess response.status <;> simp [Exchange.run, success]

theorem send_received (body : Value) :
    (send config endpoint (some body) cancelled exchange).requests =
      received config endpoint body cancelled exchange := by
  cases cancelled with
  | true => simp [send, received, Outcome.unsent]
  | false =>
    cases built : config.build endpoint with
    | none => simp [send, received, outgoing?, built, Outcome.unsent]
    | some request =>
      cases web : request.url.isHttp with
      | false => simp [send, received, outgoing?, built, web, Outcome.unsent, Option.filter]
      | true =>
        simp only [send, received, outgoing?, built, web, run_received, Request.withBody?,
          Option.filter, Bool.false_eq_true, ↓reduceIte, false_or, Option.map_some,
          Option.toList_some]

/-- Of one call a server sees at most one request. -/
theorem received_length_le (body : Value) :
    (received config endpoint body cancelled exchange).length ≤ 1 := by
  unfold received
  split
  · exact Nat.zero_le 1
  · cases outgoing? config endpoint body <;> simp

theorem received_eq_nil_iff (body : Value) :
    received config endpoint body cancelled exchange = [] ↔
      cancelled = true ∨ ¬Reaches config endpoint ∨ exchange = .unreachable := by
  rw [← outgoing_iff_reaches body, received]
  cases outgoing? config endpoint body with
  | none => simp
  | some request => simp [imp_iff_not_or]

theorem complete_received (client : Client) (request : ChatRequest) :
    (client.complete request cancelled exchange).requests =
      received client.config Client.completions request.toJson cancelled exchange := by
  rw [Client.complete, Outcome.mapError, request_json_requests, send_received]

theorem embed_received (client : Client) (request : EmbeddingsRequest) :
    (client.embed request cancelled exchange).requests =
      received client.config Client.embeddings request.toJson cancelled exchange := by
  rw [Client.embed, Outcome.mapError, request_json_requests, send_received]

theorem open_received (client : Client) (request : ChatRequest) :
    (client.openCompletion request cancelled exchange).requests =
      received client.config Client.completionStream { request with stream := true }.toJson
        cancelled exchange :=
  send_received _

end Calls

section Completions
variable {completion : CompletionStream}

theorem start_poll_requests (client : Client) (request : ChatRequest) (cancelled : Bool)
    (exchange : Exchange) :
    (CompletionStream.start client request cancelled exchange).poll.2.1 =
      (client.openCompletion request cancelled exchange).requests := by
  simp only [CompletionStream.poll, CompletionStream.start]
  split <;> rfl

/-- A poll leaves nothing to be asked for. -/
theorem poll_leaves_sent (completion : CompletionStream) :
    completion.poll.2.2.stage ≠ .unsent := by
  have read : ∀ (completion : CompletionStream) (deltas : DeltaStream),
      (completion.readFrom deltas).2.stage ≠ .unsent := by
    intro completion deltas
    unfold CompletionStream.readFrom
    dsimp only
    split <;> nofun
  unfold CompletionStream.poll
  cases stage : completion.stage with
  | done => simp [stage]
  | reading deltas => exact read completion deltas
  | unsent =>
    dsimp only
    split
    · nofun
    · exact read _ _

theorem poll_asks_nothing (sent : completion.stage ≠ .unsent) : completion.poll.2.1 = [] := by
  unfold CompletionStream.poll
  cases stage : completion.stage with
  | done => rfl
  | reading deltas => rfl
  | unsent => exact absurd stage sent

end Completions

/-- What a server gets to see of a completion for a conversation, whole or as a stream. -/
def asked (service : ChatService) (history : History) (settings : Option Settings)
    (purpose : Purpose) (streams : Bool) (cancelled : Bool) (exchange : Exchange) : List Request :=
  match ChatRequest.forHistory service.model history settings purpose streams with
  | .error _ => []
  | .ok request =>
    received service.client.config
      (if streams then Client.completionStream else Client.completions) request.toJson cancelled
      exchange

/-- Whether a caller who acts so has cancelled by the first poll. -/
def stoppedBefore (token : Bool) (acts : List Act) : Bool :=
  token || (acts.takeWhile (· ≠ .poll)).contains .cancel

/-- A reply that has no request to send any more. -/
inductive Past (stream : ReplyStream) : Prop where
  | running (completion : CompletionStream) (sum : Accumulator)
      (stage : stream.stage = .running completion sum) (sent : completion.stage ≠ .unsent) :
      Past stream
  | done (stage : stream.stage = .done) : Past stream

section Replies
variable {stream : ReplyStream} {exchange : Exchange} {cancelled : Bool}

theorem whole_asked (service : ChatService) (history : History) (settings : Option Settings)
    (purpose : Purpose) :
    (service.complete history settings purpose cancelled exchange).requests =
      asked service history settings purpose false cancelled exchange := by
  unfold ChatService.complete asked
  cases ChatRequest.forHistory service.model history settings purpose false with
  | error error => rfl
  | ok request => exact complete_received service.client request

theorem asked_eq_nil_iff (service : ChatService) (history : History) (settings : Option Settings)
    (purpose : Purpose) (streams : Bool) :
    asked service history settings purpose streams cancelled exchange = [] ↔
      history.turns = [] ∨ cancelled = true ∨ ¬Reaches service.client.config Client.completions ∨
        exchange = .unreachable := by
  by_cases spoken : history.turns = []
  · simp [asked, ChatRequest.forHistory, History.messages, spoken, Except.map]
  · obtain ⟨request, built⟩ :=
      request_for_history service.model settings purpose streams spoken
    have same : Reaches service.client.config
        (if streams then Client.completionStream else Client.completions) ↔
          Reaches service.client.config Client.completions := by
      cases streams with
      | false => rfl
      | true => exact reaches_streamed service.client
    simp only [asked, built, received_eq_nil_iff, same, spoken, false_or]

theorem asked_length_le (service : ChatService) (history : History) (settings : Option Settings)
    (purpose : Purpose) (streams : Bool) :
    (asked service history settings purpose streams cancelled exchange).length ≤ 1 := by
  unfold asked
  split
  · exact Nat.zero_le 1
  · exact received_length_le _

theorem advance_requests (stream : ReplyStream) (completion : CompletionStream)
    (sum : Accumulator) : (stream.advance completion sum).2.1 = completion.poll.2.1 := by
  unfold ReplyStream.advance
  repeat' split
  all_goals simp_all

theorem advance_past (stream : ReplyStream) (completion : CompletionStream) (sum : Accumulator) :
    Past (stream.advance completion sum).2.2 := by
  have sent := poll_leaves_sent completion
  unfold ReplyStream.advance
  split
  · rename_i polled
    rw [polled] at sent
    exact .running _ _ rfl sent
  · exact .done rfl
  · repeat' split
    all_goals exact .done rfl

/-- A poll leaves nothing to be sent, whatever has come of it. -/
theorem poll_past (stream : ReplyStream) : Past stream.poll.2.2 := by
  unfold ReplyStream.poll
  cases stage : stream.stage with
  | done => exact .done stage
  | running completion sum => exact advance_past stream completion sum
  | unasked =>
    dsimp only
    split
    · exact .done rfl
    · exact advance_past _ _ _

theorem cancel_past (past : Past stream) : Past stream.cancel := by
  cases past with
  | running completion sum stage sent =>
    exact .running completion.cancel sum (by simp [ReplyStream.cancel, stage]) sent
  | done stage => exact .done (by simp [ReplyStream.cancel, stage])

theorem poll_requests_past (past : Past stream) : stream.poll.2.1 = [] := by
  unfold ReplyStream.poll
  cases past with
  | running completion sum stage sent =>
    rw [stage]
    exact (advance_requests stream completion sum).trans (poll_asks_nothing sent)
  | done stage => rw [stage]

theorem consume_past (stream : ReplyStream) (acts : List Act) (past : Past stream) :
    (consume stream acts).requests = [] := by
  induction acts generalizing stream with
  | nil => rfl
  | cons act rest ih =>
    cases act with
    | cancel => exact ih stream.cancel (cancel_past past)
    | poll => simp [consume, poll_requests_past past, ih _ (poll_past stream)]

theorem first_poll_requests (unasked : stream.stage = .unasked) :
    stream.poll.2.1 =
      asked stream.service stream.history stream.settings stream.purpose true stream.cancelled
        stream.exchange := by
  unfold ReplyStream.poll asked
  rw [unasked]
  cases built : ChatRequest.forHistory stream.service.model stream.history stream.settings
      stream.purpose true with
  | error error => rfl
  | ok request =>
    have flagged : { request with stream := true } = request := by
      obtain ⟨-, rfl⟩ := for_history_ok_iff.mp built
      rfl
    simp only [advance_requests, start_poll_requests, open_received, flagged, ↓reduceIte]

/-- A streamed reply sends what it is asked with at its first poll, and nothing else. -/
theorem consume_asked (stream : ReplyStream) (acts : List Act) (unasked : stream.stage = .unasked) :
    (consume stream acts).requests =
      if .poll ∈ acts then
        asked stream.service stream.history stream.settings stream.purpose true
          (stoppedBefore stream.cancelled acts) stream.exchange
      else [] := by
  induction acts generalizing stream with
  | nil => rfl
  | cons act rest ih =>
    cases act with
    | cancel =>
      have behind := ih stream.cancel (by simp [ReplyStream.cancel, unasked])
      simpa [consume, ReplyStream.cancel, stoppedBefore] using behind
    | poll =>
      have silent := consume_past _ rest (poll_past stream)
      simp [consume, silent, first_poll_requests unasked, stoppedBefore]

end Replies

end ChatClient.SentRequests
