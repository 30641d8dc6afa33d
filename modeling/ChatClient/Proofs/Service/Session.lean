import ChatClient.Proofs.Service.ReplyHistory
import ChatClient.Proofs.Service.Sending

/-! Sessions: what becomes of one history over any number of calls. A request is made from a copy of
the history in which the last turn has been given to the user; here it is followed that nothing of
that copy finds its way back, however the calls are mixed, fail, are cancelled or are dropped. -/
namespace ChatClient.Session
open Http Json ReplyHistory Sending

/-- What the owner of a history does with it. -/
inductive Step where
  | add (role : Role) (text : String)
  | push (turn : Turn)
  | reply (service : ChatService) (settings : Option Settings) (cancelled : Bool)
      (exchange : Exchange)
  /-- Asks about a lone prompt, beside the history. -/
  | answer (service : ChatService) (prompt : String) (settings : Option Settings)
      (cancelled : Bool) (exchange : Exchange)
  | stream (service : ChatService) (settings : Option Settings) (cancelled : Bool)
      (exchange : Exchange) (acts : List Act)

/-- A step as it went. -/
structure Entry where
  before : History
  step : Step
  requests : List Request
  /-- What a streamed reply has handed out. -/
  items : List Item
  after : History

namespace Step

def run (history : History) (step : Step) : Entry :=
  match step with
  | .add role text => ⟨history, step, [], [], history.add role text⟩
  | .push turn => ⟨history, step, [], [], history.push turn⟩
  | .reply service settings cancelled exchange =>
    ⟨history, step, (service.reply history settings cancelled exchange).requests, [], history⟩
  | .answer service prompt settings cancelled exchange =>
    ⟨history, step, (service.answer prompt settings cancelled exchange).requests, [], history⟩
  | .stream service settings cancelled exchange acts =>
    let consumed := consume (service.streamReply history settings cancelled exchange) acts
    ⟨history, step, consumed.requests, consumed.items, consumed.stream.history⟩

/-- The prompt that a step is about, if it is not about the history. -/
def prompt? : Step → Option String
  | .answer _ prompt _ _ _ => some prompt
  | _ => none

/-- The conversation that the requests of a step are to carry. -/
def conversation (history : History) (step : Step) : History :=
  match step.prompt? with
  | some prompt => ⟨[.of .user prompt]⟩
  | none => history

end Step

/-- The steps of a session, each on the history that the one before it has left. -/
def run (history : History) : List Step → List Entry
  | [] => []
  | step :: rest => step.run history :: run (step.run history).after rest

/-- The turns that a step adds. A streamed reply adds one if it has been read to an end without a
failure, and the calls add none. -/
inductive Adds (items : List Item) : Step → List Turn → Prop where
  | add (role : Role) (text : String) : Adds items (.add role text) [⟨role, text, none⟩]
  | push (turn : Turn) : Adds items (.push turn) [turn]
  | reply (service : ChatService) (settings : Option Settings) (cancelled : Bool)
      (exchange : Exchange) : Adds items (.reply service settings cancelled exchange) []
  | answer (service : ChatService) (prompt : String) (settings : Option Settings)
      (cancelled : Bool) (exchange : Exchange) :
      Adds items (.answer service prompt settings cancelled exchange) []
  | read (service : ChatService) (settings : Option Settings) (cancelled : Bool)
      (exchange : Exchange) (acts : List Act) (ended : ReadToEnd items) :
      Adds items (.stream service settings cancelled exchange acts)
        [gatheredTurn service.model (deltasOf items)]
  | unread (service : ChatService) (settings : Option Settings) (cancelled : Bool)
      (exchange : Exchange) (acts : List Act) (short : ¬ReadToEnd items) :
      Adds items (.stream service settings cancelled exchange acts) []

/-- A turn on the wire. -/
def spoken (speaker text : String) : Value :=
  .object [("role", .string speaker), ("content", .string text)]

/-- Who speaks on the wire: everyone for themselves, and the assistant for the tools. -/
def speaker : Role → String
  | .system => "system"
  | .user => "user"
  | .assistant => "assistant"
  | .tool => "assistant"

/-- The messages in the body of a request. -/
def messages? (request : Request) : Option (List Value) :=
  (request.body.bind (·.get? "messages")).bind Value.array?

/-- A request carries a conversation: one message for each turn, in order, the last of them the
user's. -/
def Carries (request : Request) (history : History) : Prop :=
  ∃ messages, messages? request = some messages ∧ messages.length = history.turns.length ∧
    ∀ place turn, history.turns[place]? = some turn →
      messages[place]? = some
        (spoken (if place + 1 = history.turns.length then "user" else speaker turn.role) turn.text)

section Messages
variable {history : History}

theorem end_on_user_length (messages : List Message) :
    (Message.endOnUser messages).length = messages.length := by
  fun_induction Message.endOnUser messages with
  | case1 => rfl
  | case2 last => rfl
  | case3 first second rest ih => simp [ih]

/-- Only the last message changes hands. -/
theorem end_on_user_get (messages : List Message) (place : Nat) :
    (Message.endOnUser messages)[place]? =
      messages[place]?.map fun message =>
        if place + 1 = messages.length then { message with role := .user } else message := by
  fun_induction Message.endOnUser messages generalizing place with
  | case1 => rfl
  | case2 last => cases place <;> simp
  | case3 first second rest ih =>
    cases place with
    | zero => simp
    | succ place => simpa using ih place

theorem message_of_turn (turn : Turn) :
    (Message.ofTurn turn).toJson = spoken (speaker turn.role) turn.text := by
  rcases turn with ⟨role, text, modelId⟩
  cases role <;> rfl

theorem user_message (turn : Turn) :
    { Message.ofTurn turn with role := .user }.toJson = spoken "user" turn.text := rfl

/-- Every turn is sent in its place, the last one as the user's. -/
theorem messages_of_turns (turns : List Turn) {place : Nat} {turn : Turn}
    (there : turns[place]? = some turn) :
    (Message.endOnUser (turns.map Message.ofTurn))[place]?.map Message.toJson =
      some (spoken (if place + 1 = turns.length then "user" else speaker turn.role) turn.text) := by
  rw [end_on_user_get, List.getElem?_map, there]
  by_cases last : place + 1 = turns.length
  · simp [last, user_message]
  · simp [last, message_of_turn]

/-- A completion request asks about a conversation. -/
def AsksAbout (history : History) (request : ChatRequest) : Prop :=
  history.messages = .ok request.messages

theorem asks_about_of_request {model : String} {settings : Option Settings} {purpose : Purpose}
    {stream : Bool} {request : ChatRequest}
    (asked : ChatRequest.forHistory model history settings purpose stream = .ok request) :
    AsksAbout history request := by
  unfold ChatRequest.forHistory at asked
  cases said : history.messages with
  | error error =>
    rw [said] at asked
    cases asked
  | ok messages =>
    rw [said] at asked
    cases asked
    exact said

theorem carries_of_body {request : Request} (asked : ChatRequest) (asks : AsksAbout history asked)
    (body : request.body = some asked.toJson) : Carries request history := by
  have messages : asked.messages = Message.endOnUser (history.turns.map .ofTurn) := by
    unfold AsksAbout History.messages at asks
    split at asks
    · cases asks
    · exact (Except.ok.inj asks).symm
  have shown : messages? request = some (asked.messages.map Message.toJson) := by
    simp [messages?, body, ChatRequest.toJson, Value.get?, field, Value.array?, List.lookup_cons]
  refine ⟨_, shown, by simp [messages, end_on_user_length], fun place turn found => ?_⟩
  rw [messages, List.getElem?_map]
  exact messages_of_turns history.turns found

end Messages

section Requests
variable {history : History} {stream : ReplyStream}

theorem complete_requests (client : Client) (asked : ChatRequest) (cancelled : Bool)
    (exchange : Exchange) :
    ∀ request ∈ (client.complete asked cancelled exchange).requests,
      request.body = some asked.toJson := by
  intro request sent
  rw [Client.complete, Outcome.mapError, request_json_requests] at sent
  exact send_requests _ request sent

theorem open_requests (client : Client) (asked : ChatRequest) (cancelled : Bool)
    (exchange : Exchange) :
    ∀ request ∈ (client.openCompletion asked cancelled exchange).requests,
      request.body = some { asked with stream := true }.toJson :=
  fun request sent => send_requests _ request sent

/-- A whole reply asks about the conversation that it is for. -/
theorem whole_requests_carry (service : ChatService) (settings : Option Settings)
    (purpose : Purpose) (cancelled : Bool) (exchange : Exchange) :
    ∀ request ∈ (service.complete history settings purpose cancelled exchange).requests,
      Carries request history := by
  intro request sent
  unfold ChatService.complete at sent
  split at sent
  · cases sent
  · rename_i asked built
    exact carries_of_body asked (asks_about_of_request built) (complete_requests _ _ _ _ request sent)

/-- A completion goes on with the request that it was started with. -/
theorem poll_request (completion : CompletionStream) :
    completion.poll.2.2.request = completion.request := by
  have read : ∀ (completion : CompletionStream) (deltas : DeltaStream),
      (completion.readFrom deltas).2.request = completion.request := by
    intro completion deltas
    unfold CompletionStream.readFrom
    dsimp only
    split <;> rfl
  unfold CompletionStream.poll
  cases completion.stage with
  | done => rfl
  | reading deltas => exact read completion deltas
  | unsent =>
    dsimp only
    split
    · rfl
    · exact read _ _

theorem poll_requests (completion : CompletionStream) :
    ∀ request ∈ completion.poll.2.1,
      request.body = some { completion.request with stream := true }.toJson := by
  intro request sent
  unfold CompletionStream.poll at sent
  cases stage : completion.stage with
  | done => simp [stage] at sent
  | reading deltas => simp [stage] at sent
  | unsent =>
    have opened : request ∈ (completion.client.openCompletion completion.request
        completion.cancelled completion.exchange).requests := by
      simp only [stage] at sent
      split at sent <;> exact sent
    exact open_requests _ _ _ _ request opened

/-- A streamed reply that asks about a history, or is past asking. -/
inductive Asking (history : History) (stream : ReplyStream) : Prop where
  | unasked (stage : stream.stage = .unasked) (same : stream.history = history)
  | running (completion : CompletionStream) (sum : Accumulator)
      (stage : stream.stage = .running completion sum) (asks : AsksAbout history completion.request)
  | done (stage : stream.stage = .done)

theorem cancel_asking (asking : Asking history stream) : Asking history stream.cancel := by
  cases asking with
  | unasked stage same => exact .unasked (by simp [ReplyStream.cancel, stage]) same
  | running completion sum stage asks =>
    exact .running completion.cancel sum (by simp [ReplyStream.cancel, stage]) asks
  | done stage => exact .done (by simp [ReplyStream.cancel, stage])

private theorem advance_asking (stream : ReplyStream) (completion : CompletionStream)
    (sum : Accumulator) (asks : AsksAbout history completion.request) :
    (∀ request ∈ (stream.advance completion sum).2.1, Carries request history) ∧
      Asking history (stream.advance completion sum).2.2 := by
  have kept := poll_request completion
  have bodies := poll_requests completion
  unfold ReplyStream.advance
  rcases polled : completion.poll with ⟨item, requests, after⟩
  rw [polled] at kept bodies
  have carry : ∀ request ∈ requests, Carries request history := fun request sent =>
    carries_of_body { completion.request with stream := true } asks (bodies request sent)
  cases item with
  | delta delta =>
    refine ⟨carry, .running after (sum.push delta) rfl ?_⟩
    rw [show after.request = completion.request from kept]
    exact asks
  | failed error => exact ⟨carry, .done rfl⟩
  | ended =>
    dsimp only
    split
    · split
      · exact ⟨carry, .done rfl⟩
      · exact ⟨carry, .done rfl⟩
    · exact ⟨carry, .done rfl⟩

theorem poll_asking (asking : Asking history stream) :
    (∀ request ∈ stream.poll.2.1, Carries request history) ∧ Asking history stream.poll.2.2 := by
  unfold ReplyStream.poll
  cases asking with
  | unasked stage same =>
    subst same
    rw [stage]
    dsimp only
    split
    · exact ⟨by simp, .done rfl⟩
    · rename_i asked built
      exact advance_asking _ _ _ (asks_about_of_request built)
  | running completion sum stage asks =>
    rw [stage]
    exact advance_asking _ _ _ asks
  | done stage =>
    rw [stage]
    exact ⟨by simp, .done stage⟩

/-- Whatever its consumer does, a streamed reply asks about the history that it was begun with. -/
theorem streamed_requests_carry (stream : ReplyStream) (acts : List Act)
    (asking : Asking history stream) :
    ∀ request ∈ (consume stream acts).requests, Carries request history := by
  induction acts generalizing stream with
  | nil => simp [consume]
  | cons act rest ih =>
    cases act with
    | cancel => exact ih stream.cancel (cancel_asking asking)
    | poll =>
      obtain ⟨carry, still⟩ := poll_asking asking
      simp only [consume, List.mem_append]
      rintro request (first | later)
      · exact carry request first
      · exact ih _ still request later

end Requests

section Steps

theorem step_before (history : History) (step : Step) : (step.run history).before = history := by
  cases step <;> rfl

theorem step_step (history : History) (step : Step) : (step.run history).step = step := by
  cases step <;> rfl

/-- A step leaves the turns that are there, and adds its own behind them. -/
theorem step_adds (history : History) (step : Step) :
    ∃ turns, Adds (step.run history).items step turns ∧
      (step.run history).after.turns = history.turns ++ turns := by
  cases step with
  | add role text => exact ⟨_, .add role text, rfl⟩
  | push turn => exact ⟨_, .push turn, rfl⟩
  | reply service settings cancelled exchange =>
    exact ⟨_, .reply service settings cancelled exchange, (List.append_nil _).symm⟩
  | answer service prompt settings cancelled exchange =>
    exact ⟨_, .answer service prompt settings cancelled exchange, (List.append_nil _).symm⟩
  | stream service settings cancelled exchange acts =>
    let reading := service.streamReply history settings cancelled exchange
    have course := consume_course reading acts rfl .unasked
    rcases course_ends course with ⟨read, written, -⟩ | ⟨unread, unwritten⟩
    · rw [finish_gathers] at written
      exact ⟨_, .read service settings cancelled exchange acts read, congrArg History.turns written⟩
    · refine ⟨_, .unread service settings cancelled exchange acts unread, ?_⟩
      rw [List.append_nil]
      exact congrArg History.turns unwritten

/-- Every request of a step carries the conversation that the step is about. -/
theorem step_carries (history : History) (step : Step) :
    ∀ request ∈ (step.run history).requests, Carries request (step.conversation history) := by
  cases step with
  | add role text => simp [Step.run]
  | push turn => simp [Step.run]
  | reply service settings cancelled exchange =>
    exact whole_requests_carry service settings .chat cancelled exchange
  | answer service prompt settings cancelled exchange =>
    exact whole_requests_carry service settings .prompt cancelled exchange
  | stream service settings cancelled exchange acts =>
    exact streamed_requests_carry _ acts (.unasked rfl rfl)

end Steps

/-- What an earlier step leaves is there for a later one: the turns come first in its history, and its
requests about that history show each of them that is not its last turn in its own role. -/
structure Follows (early late : Entry) : Prop where
  kept : early.after.turns <+: late.before.turns
  plain : late.step.prompt? = none → ∀ request ∈ late.requests, ∀ place turn,
    early.after.turns[place]? = some turn → place + 1 < late.before.turns.length →
      (messages? request).bind (·[place]?) = some (spoken (speaker turn.role) turn.text)

section Runs
variable {history : History}

/-- An entry of a session is its step, run on the history before it. -/
theorem mem_run {steps : List Step} {entry : Entry} (logged : entry ∈ run history steps) :
    entry = entry.step.run entry.before ∧ history.turns <+: entry.before.turns := by
  induction steps generalizing history with
  | nil => cases logged
  | cons step rest ih =>
    rcases List.mem_cons.mp logged with rfl | later
    · rw [step_before, step_step]
      exact ⟨rfl, List.prefix_refl _⟩
    · obtain ⟨turns, -, grown⟩ := step_adds history step
      obtain ⟨same, grows⟩ := ih later
      refine ⟨same, List.IsPrefix.trans ?_ grows⟩
      rw [grown]
      exact List.prefix_append _ _

theorem entry_carries {steps : List Step} {entry : Entry} (logged : entry ∈ run history steps) :
    ∀ request ∈ entry.requests, Carries request (entry.step.conversation entry.before) := by
  obtain ⟨same, -⟩ := mem_run logged
  have carry := step_carries entry.before entry.step
  rwa [← same] at carry

/-- A turn that a request shows elsewhere than last goes out in its own role, whatever role it went
out in when it was last itself. -/
theorem follows_of_prefix {early late : Entry}
    (kept : early.after.turns <+: late.before.turns)
    (carry : ∀ request ∈ late.requests, Carries request (late.step.conversation late.before)) :
    Follows early late where
  kept := kept
  plain := by
    intro unprompted request sent place turn found inner
    have own : late.step.conversation late.before = late.before := by
      simp [Step.conversation, unprompted]
    obtain ⟨messages, shown, -, each⟩ := carry request sent
    rw [own] at each
    have still : late.before.turns[place]? = some turn := by
      obtain ⟨rest, whole⟩ := kept
      rw [← whole, List.getElem?_append_left (List.getElem?_eq_some_iff.mp found).1, found]
    have message := each place turn still
    rw [if_neg (Nat.ne_of_lt inner)] at message
    rw [shown, Option.bind_some, message]

theorem run_follows (steps : List Step) : (run history steps).Pairwise Follows := by
  induction steps generalizing history with
  | nil => exact List.Pairwise.nil
  | cons step rest ih =>
    refine List.pairwise_cons.mpr ⟨fun late logged => ?_, ih⟩
    exact follows_of_prefix (mem_run logged).2 (entry_carries logged)

end Runs

/-- Over every session each step leaves the turns that are there and adds its own behind them; its
requests carry the conversation as it stood when the step began; and whatever a step leaves is carried
so by the later ones. -/
theorem turns_stay_and_go_out_in_order (history : History) (steps : List Step) :
    (∀ entry ∈ run history steps,
      (∃ turns, Adds entry.items entry.step turns ∧
        entry.after.turns = entry.before.turns ++ turns) ∧
      ∀ request ∈ entry.requests, Carries request (entry.step.conversation entry.before)) ∧
    (run history steps).Pairwise Follows := by
  refine ⟨fun entry logged => ⟨?_, entry_carries logged⟩, run_follows steps⟩
  obtain ⟨same, -⟩ := mem_run logged
  have adds := step_adds entry.before entry.step
  rwa [← same] at adds

end ChatClient.Session
