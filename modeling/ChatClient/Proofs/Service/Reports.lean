import ChatClient.Proofs.Completion.Building
import ChatClient.Proofs.Service.Refusals
import ChatClient.Proofs.Service.ReplyReading
import ChatClient.Proofs.Service.SentRequests
import ChatClient.Proofs.Stream.Failures

/-! What calls report is true. Behind every failure that a host gets to see stands something that
has happened: a status was answered by the server, with that body; what is blamed on the content of
an answer came with success; and a call that counts as cancelled has been cancelled. Whether
anything was sent is settled before that, for one request at most. -/
namespace ChatClient.Reports
open Http Json Building ReplyHistory ReplyReading Sending SentRequests Refusals StreamFailures

/-- A failure, and the token as it was when the caller was told. -/
structure Failure where
  error : ClientError
  token : Bool

/-- What there is to see of a call: the requests that went out, and the failures that came back. -/
structure Report where
  requests : List Request
  failures : List Failure

/-- The failures among the items that a reply hands out while its owner acts. -/
def failuresOf (stream : ReplyStream) : List Act → List Failure
  | [] => []
  | .cancel :: rest => failuresOf stream.cancel rest
  | .poll :: rest =>
    let (item, _, after) := stream.poll
    (match item with
      | .failed error => [⟨error, after.cancelled⟩]
      | _ => []) ++ failuresOf after rest

namespace Report

def ofOutcome {α : Type} (outcome : Outcome ClientError α) : Report where
  requests := outcome.requests
  failures :=
    match outcome.result with
    | .ok _ => []
    | .error error => [⟨error, outcome.cancelled⟩]

def ofStream (stream : ReplyStream) (acts : List Act) : Report :=
  ⟨(consume stream acts).requests, failuresOf stream acts⟩

end Report

/-- The report on a call. A stream is polled and cancelled by its owner; other calls only find the
token cancelled or not. -/
def reportOf (token : Bool) (exchange : Exchange) (acts : List Act) : Call → Report
  | .reply service history settings => .ofOutcome (service.reply history settings token exchange)
  | .answer service prompt settings => .ofOutcome (service.answer prompt settings token exchange)
  | .streamReply service history settings =>
    .ofStream (service.streamReply history settings token exchange) acts
  | .streamAnswer service prompt settings =>
    .ofStream (service.streamAnswer prompt settings token exchange) acts
  | .embed service texts => .ofOutcome (service.embed texts token exchange)

/-- Why a call sends nothing: there is nothing to say, the token was cancelled before sending, no
request can be built that could go out, or a stream was never polled. -/
def Withheld (token : Bool) (acts : List Act) : Call → Prop
  | .reply service history _ =>
    history.turns = [] ∨ token = true ∨ ¬Reaches service.client.config Client.completions
  | .answer service _ _ => token = true ∨ ¬Reaches service.client.config Client.completions
  | .streamReply service history _ =>
    .poll ∉ acts ∨ history.turns = [] ∨ stoppedBefore token acts = true ∨
      ¬Reaches service.client.config Client.completions
  | .streamAnswer service _ _ =>
    .poll ∉ acts ∨ stoppedBefore token acts = true ∨
      ¬Reaches service.client.config Client.completions
  | .embed service texts =>
    texts = [] ∨ token = true ∨ ¬Reaches service.client.config Client.embeddings

/-- What a failure says about an exchange, and about the requests that went out for it. -/
structure Truthful (exchange : Exchange) (sent : List Request) (failure : Failure) : Prop where
  paired : failure.error.statusCode.isSome = failure.error.rawBody.isSome
  status : ∀ code, failure.error.statusCode = some code → sent ≠ [] ∧ ∃ response,
    exchange = .answered response ∧ response.status = code ∧ ¬(200 ≤ code ∧ code ≤ 299) ∧
      response.ending = .complete ∧
      failure.error.rawBody = some (Text.Utf8.decodeLossy response.chunks.flatten)
  shape : failure.error.isShapeError = true → sent ≠ [] ∧ ∃ response,
    exchange = .answered response ∧ 200 ≤ response.status ∧ response.status ≤ 299
  cancelled : failure.error.isCancelled = true → failure.token = true
  status_or_shape : ¬(failure.error.statusCode.isSome = true ∧ failure.error.isShapeError = true)
  status_or_cancelled :
    ¬(failure.error.statusCode.isSome = true ∧ failure.error.isCancelled = true)
  shape_or_cancelled : ¬(failure.error.isShapeError = true ∧ failure.error.isCancelled = true)
  empty : failure.error = .emptyHistory → sent = []

/-- A request went out, and the head of its answer told of success. -/
def Accepted (exchange : Exchange) (sent : List Request) : Prop :=
  sent ≠ [] ∧ ∃ response, exchange = .answered response ∧ isSuccess response.status = true

/-- The failures that blame the content of an answer. -/
inductive OfContent : ClientError → Prop where
  | shape (fault : ShapeFault) : OfContent (.shape fault)
  | badBody (code : Nat) (error : Json.Error) (body : String) :
      OfContent (.call (.badBody code error body))
  | badEvent (error : Json.Error) (line : String) : OfContent (.call (.badEvent error line))
  | notUtf8 (fault : Text.Utf8.Fault) : OfContent (.call (.notUtf8 fault))

/-- All that calls fail for, with what has happened then. -/
inductive Warranted (exchange : Exchange) (sent : List Request) (token : Bool) :
    ClientError → Prop where
  | emptyHistory (unsent : sent = []) : Warranted exchange sent token .emptyHistory
  | cancelled (stopped : token = true) : Warranted exchange sent token (.call .cancelled)
  | broken : Warranted exchange sent token (.call .exchange)
  | refused (response : Response) (asked : sent ≠ []) (answered : exchange = .answered response)
      (refusal : isSuccess response.status = false) (whole : response.ending = .complete) :
      Warranted exchange sent token
        (.call (.status (.ofResponse response.status response.chunks.flatten)))
  | content (error : ClientError) (accepted : Accepted exchange sent) (blames : OfContent error) :
      Warranted exchange sent token error

theorem success_iff (code : Nat) : isSuccess code = true ↔ 200 ≤ code ∧ code ≤ 299 := by
  simp [isSuccess]

theorem truthful_of_warranted {exchange : Exchange} {sent : List Request} {failure : Failure}
    (warranted : Warranted exchange sent failure.token failure.error) :
    Truthful exchange sent failure := by
  obtain ⟨error, token⟩ := failure
  cases warranted with
  | emptyHistory unsent => exact ⟨rfl, nofun, nofun, nofun, nofun, nofun, nofun, fun _ => unsent⟩
  | cancelled stopped => exact ⟨rfl, nofun, nofun, fun _ => stopped, nofun, nofun, nofun, nofun⟩
  | broken => exact ⟨rfl, nofun, nofun, nofun, nofun, nofun, nofun, nofun⟩
  | refused response asked answered refusal whole =>
    refine ⟨rfl, ?_, nofun, nofun, nofun, nofun, nofun, nofun⟩
    rintro _ ⟨⟩
    refine ⟨asked, response, answered, rfl, ?_, whole, rfl⟩
    rw [← success_iff, StatusFailure.ofResponse, refusal]
    exact Bool.false_ne_true
  | content _ accepted blames =>
    obtain ⟨asked, response, answered, success⟩ := accepted
    have head := (success_iff _).mp success
    cases blames with
    | shape | badBody | badEvent =>
      exact ⟨rfl, nofun, fun _ => ⟨asked, response, answered, head⟩, nofun, nofun, nofun, nofun,
        nofun⟩
    | notUtf8 => exact ⟨rfl, nofun, nofun, nofun, nofun, nofun, nofun, nofun⟩

/-- Every failure that a call comes to is warranted. -/
def Warrants {α : Type} (exchange : Exchange) (outcome : Outcome ClientError α) : Prop :=
  ∀ error, outcome.result = .error error →
    Warranted exchange outcome.requests outcome.cancelled error

section Calls
variable {α β : Type} {config : ServerConfig} {endpoint : Endpoint} {exchange : Exchange}
  {cancelled : Bool}

theorem warrants_call_iff (outcome : Outcome CallError α) :
    Warrants exchange (outcome.mapError .call) ↔ ∀ error, outcome.result = .error error →
      Warranted exchange outcome.requests outcome.cancelled (.call error) := by
  rcases outcome with ⟨result, requests, token⟩
  cases result with
  | ok => exact iff_of_true nofun nofun
  | error reason =>
    constructor
    · rintro warrants _ ⟨⟩
      exact warrants _ rfl
    · rintro warrants _ ⟨⟩
      exact warrants reason rfl

/-- What is made of a result that is accepted can only blame its content. -/
theorem bind_warrants {outcome : Outcome ClientError α} {next : α → Except ClientError β}
    (warrants : Warrants exchange outcome)
    (accepted : ∀ value, outcome.result = .ok value → Accepted exchange outcome.requests)
    (blames : ∀ value error, next value = .error error → OfContent error) :
    Warrants exchange (outcome.bindResult next) := by
  intro error failed
  cases found : outcome.result with
  | error reason =>
    simp only [Outcome.bindResult, found, Except.bind, Except.error.injEq] at failed
    exact warrants error (failed ▸ found)
  | ok value =>
    simp only [Outcome.bindResult, found, Except.bind] at failed
    exact .content error (accepted value found) (blames value error failed)

theorem run_warranted {request : Request} {error : CallError}
    (failed : (exchange.run request).result = .error error) :
    Warranted exchange (exchange.run request).requests (exchange.run request).cancelled
      (.call error) := by
  cases exchange with
  | unreachable =>
    cases failed
    exact .broken
  | silent =>
    cases failed
    exact .cancelled rfl
  | answered response =>
    cases success : isSuccess response.status with
    | true => simp [Exchange.run, success] at failed
    | false =>
      have refused : (Exchange.answered response).run request =
          ⟨.error response.failure.1, [request], response.failure.2⟩ := by
        simp [Exchange.run, success]
      rw [refused] at failed ⊢
      cases failed
      cases ending : response.ending with
      | complete =>
        rw [failure_of_complete ending]
        exact .refused response (List.cons_ne_nil _ _) rfl success ending
      | broken =>
        rw [failure_of_broken ending]
        exact .broken
      | stalled =>
        have stopped : response.failure = (.cancelled, true) := by
          simp [Response.failure, Response.wholeBody, ending]
        rw [stopped]
        exact .cancelled rfl

theorem send_warranted {body : Option Value} {error : CallError}
    (failed : (send config endpoint body cancelled exchange).result = .error error) :
    Warranted exchange (send config endpoint body cancelled exchange).requests
      (send config endpoint body cancelled exchange).cancelled (.call error) := by
  cases cancelled with
  | true =>
    cases failed
    exact .cancelled rfl
  | false =>
    by_cases reaches : Reaches config endpoint
    · obtain ⟨request, -, sent⟩ := send_reached exchange body reaches
      rw [sent] at failed ⊢
      exact run_warranted failed
    · rw [send_unreached body reaches] at failed
      cases failed
      exact .broken

/-- Whatever is handed on has been accepted. -/
theorem send_accepted {body : Option Value} {response : Response}
    (sent : (send config endpoint body cancelled exchange).result = .ok response) :
    exchange = .answered response ∧
      Accepted exchange (send config endpoint body cancelled exchange).requests := by
  have head := (send_ok_iff body).mp sent
  obtain ⟨request, outcome⟩ := send_success body head.reaches head.success
  rw [head.going, head.answered, outcome]
  exact ⟨rfl, List.cons_ne_nil _ _, response, rfl, head.success⟩

theorem request_json_warrants (decode : Decoder α) (body : Option Value) :
    Warrants exchange
      ((requestJson decode config endpoint body cancelled exchange).mapError .call) := by
  rw [warrants_call_iff]
  intro error failed
  unfold requestJson at failed ⊢
  cases sent : (send config endpoint body cancelled exchange).result with
  | error reason =>
    simp only [sent] at failed ⊢
    cases failed
    exact send_warranted sent
  | ok response =>
    have accepted := (send_accepted sent).2
    simp only [sent, Response.wholeBody] at failed ⊢
    cases ending : response.ending with
    | complete =>
      simp only [ending, decodeBody] at failed ⊢
      split at failed
      · cases failed
      · cases failed
        exact .content _ accepted (.badBody ..)
    | broken =>
      simp only [ending] at failed
      cases failed
      exact .broken
    | stalled =>
      simp only [ending] at failed
      cases failed
      exact .cancelled (Bool.or_true _)

theorem request_json_accepted {decode : Decoder α} {body : Option Value} {answer : α}
    (decoded : (requestJson decode config endpoint body cancelled exchange).result = .ok answer) :
    Accepted exchange (requestJson decode config endpoint body cancelled exchange).requests := by
  obtain ⟨response, head, -⟩ := (request_json_ok_iff body).mp decoded
  rw [request_json_requests]
  exact (send_accepted ((send_ok_iff body).mpr head)).2

/-- A whole completion fails for what has happened. -/
theorem complete_warrants (service : ChatService) (history : History) (settings : Option Settings)
    (purpose : Purpose) :
    Warrants exchange (service.complete history settings purpose cancelled exchange) := by
  unfold ChatService.complete
  cases built : ChatRequest.forHistory service.model history settings purpose false with
  | error error =>
    obtain ⟨-, rfl⟩ := for_history_error_iff.mp built
    rintro _ ⟨⟩
    exact .emptyHistory rfl
  | ok request =>
    refine bind_warrants (request_json_warrants _ _) ?_ ?_
    · intro answer decoded
      exact request_json_accepted ((map_call_ok_iff _).mp decoded)
    · intro response error empty
      unfold Reply.ofResponse at empty
      split at empty <;> cases empty
      exact .shape _

/-- Embeddings fail for what has happened. -/
theorem embed_warrants (service : EmbeddingService) (texts : List String) :
    Warrants exchange (service.embed texts cancelled exchange) := by
  unfold EmbeddingService.embed
  split
  · nofun
  · refine bind_warrants (request_json_warrants _ _) ?_ ?_
    · intro answer decoded
      exact request_json_accepted ((map_call_ok_iff _).mp decoded)
    · intro response error miscounted
      unfold EmbeddingsResponse.vectors at miscounted
      split at miscounted <;> cases miscounted
      exact .shape _

/-- A stream that cannot be opened fails for what has happened. -/
theorem open_warrants (client : Client) (request : ChatRequest) :
    Warrants exchange (client.openCompletion request cancelled exchange) := by
  rw [Client.openCompletion, warrants_call_iff]
  intro error failed
  cases sent : (send client.config Client.completionStream
      (some { request with stream := true }.toJson) cancelled exchange).result with
  | error reason =>
    simp only [openStream, Outcome.bindResult, sent, Except.bind, Except.error.injEq] at failed
    exact failed ▸ send_warranted sent
  | ok response =>
    simp only [openStream, Outcome.bindResult, sent, Except.bind] at failed
    cases failed

/-- A stream that is opened has been accepted, and reads the body of the answer. -/
theorem open_accepted {client : Client} {request : ChatRequest} {reader : LineReader}
    (opened : (client.openCompletion request cancelled exchange).result = .ok reader) :
    Accepted exchange (client.openCompletion request cancelled exchange).requests ∧
      ∃ response : Response, reader = .ofReads response.reads false := by
  have unmapped := (map_call_ok_iff _).mp opened
  cases sent : (send client.config Client.completionStream
      (some { request with stream := true }.toJson) cancelled exchange).result with
  | error reason =>
    simp only [openStream, Outcome.bindResult, sent, Except.bind] at unmapped
    cases unmapped
  | ok response =>
    simp only [openStream, Outcome.bindResult, sent, Except.bind, Except.ok.injEq] at unmapped
    exact ⟨(send_accepted sent).2, response, unmapped.symm⟩

end Calls

/-- How far a reply has come for which everything has been sent: it reads a body that was accepted
and may still break, or it is over. -/
inductive Underway (exchange : Exchange) (sent : List Request) (stream : ReplyStream) : Prop where
  | reading (completion : CompletionStream) (sum : Accumulator) (deltas : DeltaStream)
      (stage : stream.stage = .running completion sum)
      (reading : completion.stage = .reading deltas) (accepted : Accepted exchange sent)
      (plain : ∀ error, .failure error ∈ deltas.reader.source.unread → error = .exchange) :
      Underway exchange sent stream
  | done (stage : stream.stage = .done) : Underway exchange sent stream

/-- What one poll tells, once it has sent what there is to send. -/
structure Told (exchange : Exchange) (sent : List Request)
    (polled : Item × List Request × ReplyStream) : Prop where
  failure : ∀ error, polled.1 = .failed error →
    Warranted exchange sent polled.2.2.cancelled error
  after : Underway exchange sent polled.2.2

section Streams
variable {stream : ReplyStream} {exchange : Exchange} {sent : List Request} {deltas : DeltaStream}
  {completion : CompletionStream} {token : Bool}

theorem warranted_of_raised {reads : List Read} {error : CallError}
    (accepted : Accepted exchange sent)
    (plain : ∀ error, .failure error ∈ reads → error = .exchange)
    (raised : Raised reads token error) : Warranted exchange sent token (.call error) := by
  cases raised with
  | reported _ among =>
    rw [plain error among]
    exact .broken
  | cancelled stopped => exact .cancelled stopped
  | notUtf8 fault => exact .content _ accepted (.notUtf8 fault)
  | badEvent fault line => exact .content _ accepted (.badEvent fault line)

theorem reads_plain (response : Response) :
    ∀ error, .failure error ∈ response.reads → error = .exchange := by
  intro error among
  unfold Response.reads at among
  cases ending : response.ending <;> simp [ending] at among
  exact among

theorem advance_token (stream : ReplyStream) (completion : CompletionStream) (sum : Accumulator) :
    (stream.advance completion sum).2.2.cancelled = completion.poll.2.2.cancelled := by
  unfold ReplyStream.advance
  repeat' split
  all_goals simp_all [ReplyStream.finish]

theorem reads_token (reads : Reads completion token deltas) :
    completion.poll.2.2.cancelled = (nextFor token deltas).2.reader.cancelled := by
  obtain ⟨source, requests, rfl, polled⟩ := reads
  rw [polled, read_from_eq]
  rcases nextFor source.cancelled deltas with ⟨item, after⟩
  cases item <;> rfl

/-- A poll that reads from a body that was accepted. -/
theorem advance_told (stream : ReplyStream) (sum : Accumulator)
    (reads : Reads completion token deltas) (accepted : Accepted exchange sent)
    (plain : ∀ error, .failure error ∈ deltas.reader.source.unread → error = .exchange) :
    Told exchange sent (stream.advance completion sum) := by
  let observed := if token then deltas.cancel else deltas
  have unread : observed.reader.source.unread = deltas.reader.source.unread := by
    cases token <;> rfl
  have ahead : ∀ error, .failure error ∈ observed.reader.source.unread → error = .exchange := by
    rwa [unread]
  have same := (advance_token stream completion sum).trans (reads_token reads)
  have advances := advance_advances stream sum reads
  generalize item : (stream.advance completion sum).1 = polled at advances
  generalize next : (stream.advance completion sum).2.2 = after at advances same
  constructor
  · intro error failed
    rw [next, same]
    rw [item] at failed
    subst failed
    cases advances with
    | failed _ _ read done =>
      obtain ⟨reason, rfl, raised⟩ := next_fails observed error read
      exact warranted_of_raised accepted ahead raised
    | stopped _ read done records cancelled => exact .cancelled cancelled
  · rw [next]
    cases advances with
    | delta delta _ later sum read stage reading shared cancelled =>
      exact .reading later sum _ stage reading accepted fun error among =>
        ahead error (next_within observed among)
    | failed _ _ read done => exact .done done
    | ended _ read done quiet => exact .done done
    | stopped _ read done records cancelled => exact .done done

theorem poll_told (underway : Underway exchange sent stream) : Told exchange sent stream.poll := by
  unfold ReplyStream.poll
  cases underway with
  | reading completion sum deltas stage reading accepted plain =>
    rw [stage]
    exact advance_told stream sum (reads_of_reading reading) accepted plain
  | done stage =>
    rw [stage]
    exact ⟨nofun, .done stage⟩

theorem cancel_underway (underway : Underway exchange sent stream) :
    Underway exchange sent stream.cancel := by
  cases underway with
  | reading completion sum deltas stage reading accepted plain =>
    exact .reading completion.cancel sum deltas (by simp [ReplyStream.cancel, stage]) reading
      accepted plain
  | done stage => exact .done (by simp [ReplyStream.cancel, stage])

/-- The first poll sends what there is to send, and tells the truth about it. -/
theorem first_poll_told (unasked : stream.stage = .unasked) :
    Told stream.exchange stream.poll.2.1 stream.poll := by
  unfold ReplyStream.poll
  rw [unasked]
  cases built : ChatRequest.forHistory stream.service.model stream.history stream.settings
      stream.purpose true with
  | error error =>
    obtain ⟨-, rfl⟩ := for_history_error_iff.mp built
    refine ⟨?_, .done rfl⟩
    rintro _ ⟨⟩
    exact .emptyHistory rfl
  | ok request =>
    dsimp only
    rw [advance_requests, start_poll_requests]
    rcases opened : stream.service.client.openCompletion request stream.cancelled stream.exchange
      with ⟨result, requests, token⟩
    cases result with
    | error error =>
      have warranted := open_warrants stream.service.client request error
        (congrArg Outcome.result opened)
      rw [opened] at warranted
      have told : stream.advance (.start stream.service.client request stream.cancelled
          stream.exchange) .empty = (.failed error, requests, stream.finish token) := by
        simp [ReplyStream.advance, CompletionStream.poll, CompletionStream.start, opened]
      rw [told]
      refine ⟨?_, .done rfl⟩
      rintro _ ⟨⟩
      exact warranted
    | ok reader =>
      have answered := open_accepted (congrArg Outcome.result opened)
      rw [opened] at answered
      obtain ⟨accepted, response, rfl⟩ := answered
      exact advance_told stream .empty (start_reads opened) accepted (reads_plain response)

theorem mem_failures_poll {stream : ReplyStream} {rest : List Act} {failure : Failure}
    (among : failure ∈ failuresOf stream (.poll :: rest)) :
    (stream.poll.1 = .failed failure.error ∧ failure.token = stream.poll.2.2.cancelled) ∨
      failure ∈ failuresOf stream.poll.2.2 rest := by
  rcases List.mem_append.mp among with here | later
  · split at here
    · rename_i error failed
      rw [List.mem_singleton.mp here]
      exact .inl ⟨failed, rfl⟩
    · cases here
  · exact .inr later

/-- What a reply tells for which everything has been sent. -/
theorem failures_told (stream : ReplyStream) (acts : List Act)
    (underway : Underway exchange sent stream) :
    ∀ failure ∈ failuresOf stream acts, Warranted exchange sent failure.token failure.error := by
  induction acts generalizing stream with
  | nil => nofun
  | cons act rest ih =>
    cases act with
    | cancel => exact ih stream.cancel (cancel_underway underway)
    | poll =>
      have told := poll_told underway
      intro failure among
      rcases mem_failures_poll among with ⟨failed, token⟩ | later
      · exact token ▸ told.failure failure.error failed
      · exact ih _ told.after failure later

/-- A streamed reply fails for what has happened, whenever it is polled and cancelled. -/
theorem stream_warrants (stream : ReplyStream) (acts : List Act)
    (unasked : stream.stage = .unasked) :
    ∀ failure ∈ failuresOf stream acts,
      Warranted stream.exchange (consume stream acts).requests failure.token failure.error := by
  induction acts generalizing stream with
  | nil => nofun
  | cons act rest ih =>
    cases act with
    | cancel => exact ih stream.cancel (by simp [ReplyStream.cancel, unasked])
    | poll =>
      have told := first_poll_told unasked
      have requests : (consume stream (.poll :: rest)).requests = stream.poll.2.1 := by
        simp [consume, consume_past _ rest (poll_past stream)]
      rw [requests]
      intro failure among
      rcases mem_failures_poll among with ⟨failed, token⟩ | later
      · exact token ▸ told.failure failure.error failed
      · exact failures_told _ rest told.after failure later

end Streams

section Reporting
variable {token : Bool} {exchange : Exchange} {acts : List Act}

theorem outcome_truthful {α : Type} {outcome : Outcome ClientError α}
    (warrants : Warrants exchange outcome) :
    ∀ failure ∈ (Report.ofOutcome outcome).failures,
      Truthful exchange (Report.ofOutcome outcome).requests failure := by
  intro failure among
  unfold Report.ofOutcome at among
  cases failed : outcome.result with
  | ok value => simp [failed] at among
  | error error =>
    simp only [failed, List.mem_singleton] at among
    subst among
    exact truthful_of_warranted (warrants error failed)

theorem stream_truthful {stream : ReplyStream} (unasked : stream.stage = .unasked) :
    ∀ failure ∈ (Report.ofStream stream acts).failures,
      Truthful stream.exchange (Report.ofStream stream acts).requests failure :=
  fun failure among => truthful_of_warranted (stream_warrants stream acts unasked failure among)

theorem stream_asked_nil_iff {stream : ReplyStream} (unasked : stream.stage = .unasked) :
    (consume stream acts).requests = [] ↔
      .poll ∉ acts ∨ stream.history.turns = [] ∨ stoppedBefore stream.cancelled acts = true ∨
        ¬Reaches stream.service.client.config Client.completions ∨
          stream.exchange = .unreachable := by
  rw [consume_asked stream acts unasked]
  by_cases polled : .poll ∈ acts
  · simp only [polled, ↓reduceIte, not_true_eq_false, false_or, asked_eq_nil_iff]
  · simp only [polled, ↓reduceIte, not_false_eq_true, true_or]

theorem stream_asked_length_le {stream : ReplyStream} (unasked : stream.stage = .unasked) :
    (consume stream acts).requests.length ≤ 1 := by
  rw [consume_asked stream acts unasked]
  split
  · exact asked_length_le ..
  · exact Nat.zero_le 1

theorem embed_requests (service : EmbeddingService) (texts : List String) :
    (service.embed texts token exchange).requests =
      if texts = [] then []
      else received service.client.config Client.embeddings
        (EmbeddingsRequest.toJson ⟨service.model, texts⟩) token exchange := by
  unfold EmbeddingService.embed
  cases texts with
  | nil => rfl
  | cons text rest => exact embed_received service.client ⟨service.model, text :: rest⟩

/-- Of one call a server sees at most one request. -/
theorem report_length_le (call : Call) :
    (reportOf token exchange acts call).requests.length ≤ 1 := by
  cases call with
  | reply service history settings | answer service prompt settings =>
    exact (congrArg List.length (whole_asked ..)).trans_le (asked_length_le ..)
  | streamReply service history settings | streamAnswer service prompt settings =>
    exact stream_asked_length_le rfl
  | embed service texts =>
    refine (congrArg List.length (embed_requests service texts)).trans_le ?_
    split
    · exact Nat.zero_le 1
    · exact received_length_le _

/-- Nothing is sent for the reasons named, or because there is nobody to send it to. -/
theorem report_nil_iff (call : Call) :
    (reportOf token exchange acts call).requests = [] ↔
      Withheld token acts call ∨ exchange = .unreachable := by
  cases call with
  | reply service history settings =>
    change (service.reply history settings token exchange).requests = [] ↔ _
    rw [ChatService.reply, whole_asked, asked_eq_nil_iff]
    simp only [Withheld, or_assoc]
  | answer service prompt settings =>
    change (service.answer prompt settings token exchange).requests = [] ↔ _
    rw [ChatService.answer, whole_asked, asked_eq_nil_iff]
    simp only [Withheld, or_assoc, ChatService.promptHistory, List.cons_ne_nil, false_or]
  | streamReply service history settings =>
    refine (stream_asked_nil_iff rfl).trans ?_
    simp only [Withheld, or_assoc, ChatService.streamReply]
  | streamAnswer service prompt settings =>
    refine (stream_asked_nil_iff rfl).trans ?_
    simp only [Withheld, or_assoc, ChatService.streamAnswer, ChatService.promptHistory,
      List.cons_ne_nil, false_or]
  | embed service texts =>
    change (service.embed texts token exchange).requests = [] ↔ _
    rw [embed_requests]
    cases texts with
    | nil => simp [Withheld]
    | cons text rest =>
      simp only [List.cons_ne_nil, ↓reduceIte, received_eq_nil_iff, Withheld, or_assoc, false_or]

/-- Whatever a call reports is true. -/
theorem report_truthful (call : Call) :
    ∀ failure ∈ (reportOf token exchange acts call).failures,
      Truthful exchange (reportOf token exchange acts call).requests failure := by
  cases call with
  | reply service history settings | answer service prompt settings =>
    exact outcome_truthful (complete_warrants _ _ _ _)
  | streamReply service history settings | streamAnswer service prompt settings =>
    exact stream_truthful rfl
  | embed service texts => exact outcome_truthful (embed_warrants service texts)

end Reporting

/-- Every outcome tells the truth about its exchange. A call sends one request at most. It sends
none exactly if it has nothing to say, was cancelled before sending, cannot build the request or is
a stream that was never polled, or if there is nobody to send it to. And whatever it reports as a
failure is true: a status with its body, a blame on the content of an answer, a cancellation, or
that there was nothing to send. -/
theorem outcomes_tell_the_truth (call : Call) (token : Bool) (exchange : Exchange)
    (acts : List Act) :
    let report := reportOf token exchange acts call
    report.requests.length ≤ 1 ∧
      (report.requests = [] ↔ Withheld token acts call ∨ exchange = .unreachable) ∧
      ∀ failure ∈ report.failures, Truthful exchange report.requests failure := by
  exact ⟨report_length_le call, report_nil_iff call, report_truthful call⟩

end ChatClient.Reports
