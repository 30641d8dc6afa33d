import ChatClient.Completion.Request
import ChatClient.Proofs.Service.Session
import ChatClient.Proofs.Settings.Clamping

/-! What a completion request is built from. A conversation that has begun gives a request, turn by
turn and with nothing changed but the last speaker; the settings go into it as they were given, but
for sampling values that the server would refuse and a token limit that is never left open. -/
namespace ChatClient.Building
open Json Session Clamping ExactValue

/-- What a request says, given the conversation and the settings that it is built from. Every turn
is in its place, under the name that its speaker has on the wire, and the last under the user's. -/
structure Built (model : String) (history : History) (settings : Settings) (purpose : Purpose)
    (streams : Bool) (request : ChatRequest) : Prop where
  model : request.model = model
  stream : request.stream = streams
  length : request.messages.length = history.turns.length
  messages : ∀ place turn, history.turns[place]? = some turn →
    request.messages[place]?.map Message.toJson = some
      (spoken (if place + 1 = history.turns.length then "user" else speaker turn.role) turn.text)
  temperature : Forced tenth one settings.temperature request.temperature
  topP : Forced tenth one settings.topP request.topP
  limit : request.maxTokens =
    some (settings.maxTokens.getD (match purpose with | .prompt => 256 | .chat => 1024))
  seed : request.seed = settings.seed
  safePrompt : request.safePrompt = settings.safePrompt
  tools : request.tools = settings.tools.map fun function => ⟨"function", function⟩
  shown : ∀ name ∈ ["temperature", "top_p", "max_tokens"],
    ∃ value, request.toJson.get? name = some value ∧ value.print ≠ "null"

section Conversations
variable {model : String} {history : History} {settings : Option Settings} {purpose : Purpose}
  {streams : Bool}

/-- There is no request for a conversation that has not begun, and for no other reason. -/
theorem for_history_error_iff {error : ClientError} :
    ChatRequest.forHistory model history settings purpose streams = .error error ↔
      history.turns = [] ∧ error = .emptyHistory := by
  unfold ChatRequest.forHistory History.messages
  cases history.turns with
  | nil => simp [Except.map, eq_comm]
  | cons turn rest => simp [Except.map]

theorem for_history_ok_iff {request : ChatRequest} :
    ChatRequest.forHistory model history settings purpose streams = .ok request ↔
      history.turns ≠ [] ∧ request = .ofSettings model
        (Message.endOnUser (history.turns.map Message.ofTurn)) (Settings.resolve settings) purpose
        streams := by
  unfold ChatRequest.forHistory History.messages
  cases history.turns with
  | nil => simp [Except.map]
  | cons turn rest => simp [Except.map, eq_comm]

end Conversations

section Requests

/-- The numbers that a server insists on are there. -/
theorem numbers_shown (model : String) (messages : List Message) (settings : Settings)
    (purpose : Purpose) (streams : Bool) :
    ∀ name ∈ ["temperature", "top_p", "max_tokens"], ∃ value,
      (ChatRequest.ofSettings model messages settings purpose streams).toJson.get? name =
        some value ∧ value.print ≠ "null" := by
  intro name among
  simp only [List.mem_cons, List.not_mem_nil, or_false] at among
  rcases among with rfl | rfl | rfl
  · exact ⟨_, rfl, finite_shown (sampling_forced settings.temperature).sent.finite⟩
  · exact ⟨_, rfl, finite_shown (sampling_forced settings.topP).sent.finite⟩
  · exact ⟨_, rfl, nat_shown _⟩

theorem of_settings_built (model : String) (history : History) (settings : Settings)
    (purpose : Purpose) (streams : Bool) :
    Built model history settings purpose streams (.ofSettings model
      (Message.endOnUser (history.turns.map Message.ofTurn)) settings purpose streams) where
  model := rfl
  stream := rfl
  length := by simp [ChatRequest.ofSettings, end_on_user_length]
  messages place turn there := messages_of_turns history.turns there
  temperature := sampling_forced settings.temperature
  topP := sampling_forced settings.topP
  limit := by cases purpose <;> rfl
  seed := rfl
  safePrompt := rfl
  tools := rfl
  shown := numbers_shown model _ settings purpose streams

/-- Settings whose sampling values have been forced into range give the same request again. -/
theorem of_settings_again (model : String) (messages : List Message) (settings : Settings)
    (purpose : Purpose) (streams : Bool) :
    let request := ChatRequest.ofSettings model messages settings purpose streams
    ChatRequest.ofSettings model messages
      { settings with temperature := request.temperature, topP := request.topP } purpose streams =
        request := by
  simp only [ChatRequest.ofSettings, sampling_clamp_clamp]

end Requests

/-- Settings that say nothing: full sampling, the usual limit, no seed, no safety prompt, no tools. -/
def plain : Settings :=
  ⟨one, one, none, none, false, []⟩

/-- The only thing that keeps a conversation from being sent is that it has not begun. Any other is
sent turn by turn under the given settings, with sampling values between one tenth and one and a
token limit; and once its sampling values have been put into the settings, they give the same
request again. Without settings it is sent as under plain ones. -/
theorem requests_follow_conversation_and_settings (model : String) (history : History)
    (settings : Settings) (purpose : Purpose) (streams : Bool) :
    exact tenth = 3602879701896397 / 2 ^ 55 ∧ exact one = 1 ∧
    (match ChatRequest.forHistory model history (some settings) purpose streams with
    | .error error => history.turns = [] ∧ error = .emptyHistory
    | .ok request => history.turns ≠ [] ∧
      Built model history settings purpose streams request ∧
      ChatRequest.forHistory model history
        (some { settings with temperature := request.temperature, topP := request.topP })
          purpose streams = .ok request) ∧
    ChatRequest.forHistory model history none purpose streams =
      ChatRequest.forHistory model history (some plain) purpose streams := by
  refine ⟨exact_tenth, exact_one, ?_, ?_⟩
  · cases built : ChatRequest.forHistory model history (some settings) purpose streams with
    | error error => exact for_history_error_iff.mp built
    | ok request =>
      obtain ⟨spoken, rfl⟩ := for_history_ok_iff.mp built
      refine ⟨spoken, of_settings_built .., for_history_ok_iff.mpr ⟨spoken, ?_⟩⟩
      exact (of_settings_again ..).symm
  · have usual : Settings.resolve none = plain := rfl
    simp only [ChatRequest.forHistory, usual]
    rfl

end ChatClient.Building
