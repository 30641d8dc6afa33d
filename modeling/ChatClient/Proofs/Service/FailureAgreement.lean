import ChatClient.Proofs.Service.ReplyHistory
import ChatClient.Proofs.Service.Sending

/-! Streamed and whole calls fail alike. Until the head of a successful response comes in, both ways
of asking for a completion do the same: they differ in what they ask for, which nothing that can go
wrong before that head depends on. So a stream that never gets to its deltas hands out, as its only
item, the failure that the whole call would have ended with. -/
namespace ChatClient.FailureAgreement
open Http Json ReplyHistory Sending

/-- Why no head of a successful response comes in. -/
inductive Headless (config : ServerConfig) (endpoint : Endpoint) : Bool → Exchange → Prop where
  | cancelled (exchange : Exchange) : Headless config endpoint true exchange
  /-- The request cannot be built, or there is no server of its kind. -/
  | unsendable (cancelled : Bool) (exchange : Exchange) (unreached : ¬Reaches config endpoint) :
      Headless config endpoint cancelled exchange
  | unreachable (cancelled : Bool) : Headless config endpoint cancelled .unreachable
  | silent (cancelled : Bool) : Headless config endpoint cancelled .silent
  /-- Another status comes in, with a body that may be whole, broken or stalled. -/
  | refused (cancelled : Bool) (response : Response) (refusal : isSuccess response.status = false) :
      Headless config endpoint cancelled (.answered response)

section Heads
variable {config : ServerConfig} {endpoint other : Endpoint} {cancelled : Bool} {exchange : Exchange}

/-- The reasons are all there are. -/
theorem headless_iff :
    Headless config endpoint cancelled exchange ↔
      ∀ response, ¬Succeeds config endpoint cancelled exchange response := by
  constructor
  · rintro headless response ⟨going, reaches, answered, success⟩
    cases headless with
    | cancelled => cases going
    | unsendable _ _ unreached => exact unreached reaches
    | unreachable => cases answered
    | silent => cases answered
    | refused _ given refusal =>
      cases answered
      rw [refusal] at success
      cases success
  · intro headless
    cases cancelled with
    | true => exact .cancelled exchange
    | false =>
      by_cases reaches : Reaches config endpoint
      · cases exchange with
        | unreachable => exact .unreachable false
        | silent => exact .silent false
        | answered response =>
          refine .refused false response (Bool.eq_false_iff.mpr fun success => ?_)
          exact headless response ⟨rfl, reaches, rfl, success⟩
      · exact .unsendable false exchange reaches

theorem send_headless (body : Option Value)
    (headless : Headless config endpoint cancelled exchange) :
    ∃ error, (send config endpoint body cancelled exchange).result = .error error := by
  cases sent : (send config endpoint body cancelled exchange).result with
  | error error => exact ⟨error, rfl⟩
  | ok response => exact absurd ((send_ok_iff body).mp sent) (headless_iff.mp headless response)

/-- Two calls that come to the same, whatever they have asked for. -/
structure Alike {ε α : Type} (left right : Outcome ε α) : Prop where
  result : left.result = right.result
  requests : left.requests.length = right.requests.length

theorem run_alike (exchange : Exchange) (left right : Request) :
    Alike (exchange.run left) (exchange.run right) := by
  cases exchange with
  | unreachable => exact ⟨rfl, rfl⟩
  | silent => exact ⟨rfl, rfl⟩
  | answered response =>
    by_cases success : isSuccess response.status = true
    · constructor <;> simp [Exchange.run, success]
    · constructor <;> simp [Exchange.run, success]

/-- What is sent, and where on the server, makes no difference to what comes of it. -/
theorem send_alike (same : Reaches config endpoint ↔ Reaches config other)
    (left right : Option Value) :
    Alike (send config endpoint left cancelled exchange)
      (send config other right cancelled exchange) := by
  cases cancelled with
  | true =>
    rw [send_cancelled, send_cancelled]
    exact ⟨rfl, rfl⟩
  | false =>
    by_cases reaches : Reaches config endpoint
    · obtain ⟨request, -, sent⟩ := send_reached exchange left reaches
      obtain ⟨request', -, sent'⟩ := send_reached exchange right (same.mp reaches)
      rw [sent, sent']
      exact run_alike exchange request request'
    · rw [send_unreached left reaches, send_unreached right (same.not.mp reaches)]
      exact ⟨rfl, rfl⟩

end Heads

section Calls
variable {client : Client} {cancelled : Bool} {exchange : Exchange}

/-- A call that is not answered with success fails, however it asks, and its two forms fail alike. -/
theorem asking_fails (whole streamed : ChatRequest)
    (headless : Headless client.config Client.completions cancelled exchange) :
    ∃ error, (client.complete whole cancelled exchange).result = .error error ∧
      (client.openCompletion streamed cancelled exchange).result = .error error ∧
      (client.openCompletion streamed cancelled exchange).requests.length =
        (client.complete whole cancelled exchange).requests.length := by
  have alike : Alike
      (send client.config Client.completions (some whole.toJson) cancelled exchange)
      (send client.config Client.completionStream (some { streamed with stream := true }.toJson)
        cancelled exchange) :=
    send_alike (reaches_streamed client).symm _ _
  obtain ⟨error, sent⟩ := send_headless (some whole.toJson) headless
  have opened := alike.result.symm.trans sent
  refine ⟨.call error, ?_, ?_, ?_⟩
  · apply map_call_error
    simp [requestJson, sent]
  · apply map_call_error
    simp [openStream, opened, Outcome.bindResult, Except.bind]
  · simp [Client.complete, requestJson, sent, Client.openCompletion, openStream,
      Outcome.bindResult, Outcome.mapError, alike.requests]

/-- A stream whose completion cannot be opened hands out why, asks for nothing more, and leaves the
history as it is. -/
theorem consume_unopened (stream : ReplyStream) {request : ChatRequest} {error : ClientError}
    (acts : List Act) (unasked : stream.stage = .unasked)
    (asked : ChatRequest.forHistory stream.service.model stream.history stream.settings
      stream.purpose true = .ok request)
    (opened : (stream.service.client.openCompletion request stream.cancelled
      stream.exchange).result = .error error) :
    let consumed := consume stream (.poll :: acts)
    consumed.items = .failed error :: .replicate (acts.count .poll) .ended ∧
      consumed.requests = (stream.service.client.openCompletion request stream.cancelled
        stream.exchange).requests ∧
      consumed.stream.history = stream.history := by
  intro consumed
  have polled : ∃ cancelled, stream.poll =
      (.failed error, (stream.service.client.openCompletion request stream.cancelled
        stream.exchange).requests, stream.finish cancelled) := by
    simp only [ReplyStream.poll, unasked, asked, ReplyStream.advance, CompletionStream.poll,
      CompletionStream.start, opened]
    exact ⟨_, rfl⟩
  obtain ⟨cancelled, polled⟩ := polled
  obtain ⟨items, requests, history⟩ := consume_finished (stream.finish cancelled) acts rfl
  simp only [consumed, consume, polled, items, requests, history, List.append_nil]
  exact ⟨trivial, trivial, rfl⟩

end Calls

/-- A streamed call fails as a whole one does: the failure is its only item, however often it is
polled behind that. As many requests have been sent, and the history is as it was. -/
structure FailsAlike (whole : Outcome ClientError Reply) (streamed : Consumed) (history : History)
    (polls : Nat) : Prop where
  same : ∃ error, whole.result = .error error ∧
    streamed.items = .failed error :: .replicate polls .ended
  requests : streamed.requests.length = whole.requests.length
  history : streamed.stream.history = history

section Services
variable {service : ChatService} {history : History} {cancelled : Bool} {exchange : Exchange}

theorem fails_alike (settings : Option Settings) (purpose : Purpose) (records : Bool)
    (acts : List Act) (spoken : history.turns ≠ [])
    (headless : Headless service.client.config Client.completions cancelled exchange) :
    FailsAlike (service.complete history settings purpose cancelled exchange)
      (consume ⟨service, history, settings, purpose, records, exchange, cancelled, .unasked⟩
        (.poll :: acts))
      history (acts.count .poll) := by
  obtain ⟨whole, asked⟩ := request_for_history service.model settings purpose false spoken
  obtain ⟨streamed, asked'⟩ := request_for_history service.model settings purpose true spoken
  obtain ⟨error, failed, unopened, sent⟩ := asking_fails whole streamed headless
  let stream : ReplyStream :=
    ⟨service, history, settings, purpose, records, exchange, cancelled, .unasked⟩
  obtain ⟨items, requests, kept⟩ := consume_unopened stream acts rfl asked' unopened
  have completed : service.complete history settings purpose cancelled exchange =
      (service.client.complete whole cancelled exchange).bindResult Reply.ofResponse := by
    simp [ChatService.complete, asked]
  refine ⟨⟨error, ?_, items⟩, ?_, kept⟩
  · simp [completed, Outcome.bindResult, failed, Except.bind]
  · rw [requests, completed]
    exact sent

end Services

/-- Where no head of a successful response comes in, a streamed reply to a conversation fails as the
whole reply does, and so does a streamed answer to a prompt. The failure is the same value, so all
that can be asked of it has the same answer. -/
theorem streamed_calls_fail_as_whole_calls (service : ChatService) (history : History)
    (prompt : String) (settings : Option Settings) (cancelled : Bool) (exchange : Exchange)
    (acts : List Act) (spoken : history.turns ≠ [])
    (headless : Headless service.client.config Client.completions cancelled exchange) :
    FailsAlike (service.reply history settings cancelled exchange)
        (consume (service.streamReply history settings cancelled exchange) (.poll :: acts))
        history (acts.count .poll) ∧
      FailsAlike (service.answer prompt settings cancelled exchange)
        (consume (service.streamAnswer prompt settings cancelled exchange) (.poll :: acts))
        (ChatService.promptHistory prompt) (acts.count .poll) := by
  have prompted : (ChatService.promptHistory prompt).turns ≠ [] := List.cons_ne_nil _ _
  exact ⟨fails_alike settings .chat true acts spoken headless,
    fails_alike settings .prompt false acts prompted headless⟩

/-- A refusal with a message in its body is the one item of a stream that is polled twice, however
late its owner cancels. -/
theorem streamed_calls_fail_as_whole_calls_refused :
    let service : ChatService := ⟨.withKey "key", "m"⟩
    let history : History := ⟨[.of .user "Hi"]⟩
    let body := Text.Utf8.encode "\x7b\"message\":\"invalid key\"\x7d"
    let exchange : Exchange := .answered ⟨401, [body], .complete⟩
    (history.turns ≠ [] ∧ Headless service.client.config Client.completions false exchange) ∧
      FailsAlike (service.reply history none false exchange)
        (consume (service.streamReply history none false exchange) [.poll, .cancel, .poll])
        history 1 := by
  intro service history body exchange
  have spoken : history.turns ≠ [] := List.cons_ne_nil _ _
  have headless : Headless service.client.config Client.completions false exchange :=
    .refused _ _ rfl
  have alike := streamed_calls_fail_as_whole_calls service history "" none false exchange
    [.cancel, .poll] spoken headless
  exact ⟨⟨spoken, headless⟩, alike.1⟩

end ChatClient.FailureAgreement
