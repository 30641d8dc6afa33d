import ChatClient.Proofs.Service.FailureAgreement
import ChatClient.Service.Embedding

/-! Refusals. That a call is refused is known from the head of the response, but its failure is made
of the whole body. So the status gets through to the caller if the body comes in whole, whatever it
holds; if the connection breaks within the body, the caller is told of the broken exchange and the
status is lost. -/
namespace ChatClient.Refusals
open Http Json ReplyHistory Sending FailureAgreement

/-- What a host can ask of its services. -/
inductive Call where
  | reply (service : ChatService) (history : History) (settings : Option Settings)
  | answer (service : ChatService) (prompt : String) (settings : Option Settings)
  | streamReply (service : ChatService) (history : History) (settings : Option Settings)
  | streamAnswer (service : ChatService) (prompt : String) (settings : Option Settings)
  | embed (service : EmbeddingService) (texts : List String)

namespace Call

/-- Whether a request goes out for a call that is not cancelled. -/
def Sends : Call → Prop
  | .reply service history _ | .streamReply service history _ =>
    history.turns ≠ [] ∧ Reaches service.client.config Client.completions
  | .answer service _ _ | .streamAnswer service _ _ =>
    Reaches service.client.config Client.completions
  | .embed service texts => texts ≠ [] ∧ Reaches service.client.config Client.embeddings

/-- A call that nobody cancels comes to this failure and to nothing else. A stream hands it out as
its only item, however often it is polled behind that. -/
def FailsWith (exchange : Exchange) (error : ClientError) : Call → Prop
  | .reply service history settings =>
    (service.reply history settings false exchange).result = .error error
  | .answer service prompt settings =>
    (service.answer prompt settings false exchange).result = .error error
  | .streamReply service history settings => ∀ later : Nat,
    (consume (service.streamReply history settings false exchange)
      (.replicate (later + 1) .poll)).items = .failed error :: .replicate later .ended
  | .streamAnswer service prompt settings => ∀ later : Nat,
    (consume (service.streamAnswer prompt settings false exchange)
      (.replicate (later + 1) .poll)).items = .failed error :: .replicate later .ended
  | .embed service texts => (service.embed texts false exchange).result = .error error

end Call

/-- A call tells its caller the status that it has been refused with. -/
def KeepsStatus (call : Call) (response : Response) : Prop :=
  ∃ failure : StatusFailure, failure.code = response.status ∧
    call.FailsWith (.answered response) (.call (.status failure))

section Failures
variable {call : Call} {response : Response}

/-- There is one failure at most. -/
theorem fails_unique {exchange : Exchange} {first second : ClientError}
    (fails : call.FailsWith exchange first) (also : call.FailsWith exchange second) :
    first = second := by
  cases call with
  | reply | answer | embed => exact Except.error.inj (fails.symm.trans also)
  | streamReply | streamAnswer =>
    have items := (fails 0).symm.trans (also 0)
    simpa using items

theorem failure_of_complete (complete : response.ending = .complete) :
    response.failure.1 =
      .status (.ofResponse response.status response.chunks.flatten) := by
  simp [Response.failure, Response.wholeBody, complete]

theorem failure_of_broken (broken : response.ending = .broken) :
    response.failure.1 = .exchange := by
  simp [Response.failure, Response.wholeBody, broken]

/-- A refusal is what its body makes of it, whatever has been asked. -/
theorem send_refused {config : ServerConfig} {endpoint : Endpoint} (body : Option Value)
    (reaches : Reaches config endpoint) (refused : isSuccess response.status = false) :
    (send config endpoint body false (.answered response)).result =
      .error response.failure.1 := by
  obtain ⟨request, -, sent⟩ := send_reached (.answered response) body reaches
  simp [sent, Exchange.run, refused]

theorem complete_refused (service : ChatService) {history : History} (settings : Option Settings)
    (purpose : Purpose) (spoken : history.turns ≠ [])
    (reaches : Reaches service.client.config Client.completions)
    (refused : isSuccess response.status = false) :
    (service.complete history settings purpose false (.answered response)).result =
      .error (.call response.failure.1) := by
  obtain ⟨request, asked⟩ := request_for_history service.model settings purpose false spoken
  have sent := send_refused (some request.toJson) reaches refused
  have failed : (service.client.complete request false (.answered response)).result =
      .error (.call response.failure.1) := by
    apply map_call_error
    rw [request_json_result, sent]
    rfl
  simp [ChatService.complete, asked, Outcome.bindResult, failed, Except.bind]

/-- A stream fails as the whole call does. -/
theorem stream_refused (service : ChatService) {history : History} (settings : Option Settings)
    (purpose : Purpose) (records : Bool) (later : Nat) (spoken : history.turns ≠ [])
    (reaches : Reaches service.client.config Client.completions)
    (refused : isSuccess response.status = false) :
    (consume ⟨service, history, settings, purpose, records, .answered response, false, .unasked⟩
      (.replicate (later + 1) .poll)).items =
        .failed (.call response.failure.1) :: .replicate later .ended := by
  have alike := fails_alike settings purpose records (.replicate later .poll) spoken
    (.refused false response refused : Headless service.client.config Client.completions _ _)
  obtain ⟨error, failed, items⟩ := alike.same
  rw [complete_refused service settings purpose spoken reaches refused] at failed
  cases failed
  rw [List.count_replicate_self] at items
  exact items

theorem embed_refused (service : EmbeddingService) {texts : List String} (asked : texts ≠ [])
    (reaches : Reaches service.client.config Client.embeddings)
    (refused : isSuccess response.status = false) :
    (service.embed texts false (.answered response)).result =
      .error (.call response.failure.1) := by
  let request : EmbeddingsRequest := ⟨service.model, texts⟩
  have sent := send_refused (some request.toJson) reaches refused
  have failed : (service.client.embed request false (.answered response)).result =
      .error (.call response.failure.1) := by
    apply map_call_error
    rw [request_json_result, sent]
    rfl
  simp [EmbeddingService.embed, asked, Outcome.bindResult, request, failed, Except.bind]

/-- Every call that is refused fails with what the refusal comes to. -/
theorem refused_fails (sends : call.Sends) (refused : isSuccess response.status = false) :
    call.FailsWith (.answered response) (.call response.failure.1) := by
  have prompted : ∀ prompt, (ChatService.promptHistory prompt).turns ≠ [] :=
    fun _ => List.cons_ne_nil _ _
  cases call with
  | reply service history settings =>
    exact complete_refused service settings .chat sends.1 sends.2 refused
  | answer service prompt settings =>
    exact complete_refused service settings .prompt (prompted prompt) sends refused
  | streamReply service history settings =>
    exact fun later => stream_refused service settings .chat true later sends.1 sends.2 refused
  | streamAnswer service prompt settings =>
    exact fun later =>
      stream_refused service settings .prompt false later (prompted prompt) sends refused
  | embed service texts => exact embed_refused service sends.1 sends.2 refused

end Failures

/-- A call that is refused fails with a failure of the status that it was refused with, and with no
other, exactly if the body comes in whole. If the connection breaks within the body, all the caller
learns is that the exchange broke. A body that never ends keeps a caller waiting who never cancels,
so it is left out. -/
theorem refusal_keeps_status_iff_body_whole (call : Call) (response : Response)
    (sends : call.Sends) (refused : isSuccess response.status = false)
    (running : response.ending ≠ .stalled) :
    (KeepsStatus call response ↔ response.ending = .complete) ∧
      (response.ending = .broken → call.FailsWith (.answered response) (.call .exchange)) := by
  have fails := refused_fails sends refused
  cases ending : response.ending with
  | stalled => exact absurd ending running
  | complete =>
    rw [failure_of_complete ending] at fails
    exact ⟨⟨fun _ => rfl, fun _ => ⟨_, rfl, fails⟩⟩, nofun⟩
  | broken =>
    rw [failure_of_broken ending] at fails
    refine ⟨⟨?_, nofun⟩, fun _ => fails⟩
    rintro ⟨failure, -, also⟩
    cases fails_unique fails also

/-- A stream that is refused with a body that is no text, cut in two chunks, still tells the
status. -/
theorem refusal_keeps_status_of_illegible_body :
    let service : ChatService := ⟨.withKey "key", "m"⟩
    let call : Call := .streamReply service ⟨[.of .user "Hi"]⟩ none
    let response : Response := ⟨503, [[0xFF], [0xC3]], .complete⟩
    (call.Sends ∧ isSuccess response.status = false ∧ response.ending ≠ .stalled) ∧
      KeepsStatus call response := by
  intro service call response
  have reaches : Reaches service.client.config Client.completions := reaches_with_key (by decide)
  have sends : call.Sends := ⟨List.cons_ne_nil _ _, reaches⟩
  have refused : isSuccess response.status = false := rfl
  have running : response.ending ≠ .stalled := nofun
  have keeps := refusal_keeps_status_iff_body_whole call response sends refused running
  exact ⟨⟨sends, refused, running⟩, keeps.1.mpr rfl⟩

/-- The same status is lost where the connection breaks behind the first bytes of a body. -/
theorem status_lost_in_broken_body :
    let service : ChatService := ⟨.withKey "key", "m"⟩
    let call : Call := .reply service ⟨[.of .user "Hi"]⟩ none
    let response : Response := ⟨503, [Text.Utf8.encode "down"], .broken⟩
    call.Sends ∧ isSuccess response.status = false ∧
      call.FailsWith (.answered response) (.call .exchange) ∧
      ClientError.statusCode (.call .exchange) = none ∧ ¬KeepsStatus call response := by
  intro service call response
  have reaches : Reaches service.client.config Client.completions := reaches_with_key (by decide)
  have sends : call.Sends := ⟨List.cons_ne_nil _ _, reaches⟩
  have refused : isSuccess response.status = false := rfl
  have fails : call.FailsWith (.answered response) (.call .exchange) := refused_fails sends refused
  refine ⟨sends, refused, fails, rfl, ?_⟩
  rintro ⟨failure, -, also⟩
  cases fails_unique fails also

end ChatClient.Refusals
