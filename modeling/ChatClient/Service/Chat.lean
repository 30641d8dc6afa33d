import ChatClient.Completion.Reply
import ChatClient.Service.CompletionStream

/-! Completions for a host that owns conversations and settings. Whole replies leave the history to
the host; a streamed reply to a conversation is added to it, once it has been read to its end. -/

namespace ChatClient

open Http

/-- The key under which services tell which model they use. -/
def modelIdKey : String := "ModelId"

/-- What a service tells about itself. -/
def modelAttributes (model : String) : List (String × String) :=
  if model.isEmpty then [] else [(modelIdKey, model)]

/-- Completions by one model of one server. -/
structure ChatService where
  client : Client
  model : String
  deriving DecidableEq

/-- How far a streamed reply has come: nothing asked yet, deltas coming in, or all over. -/
inductive ReplyStage where
  | unasked
  | running (completion : CompletionStream) (sum : Accumulator)
  | done

/-- A streamed reply. -/
structure ReplyStream where
  service : ChatService
  history : History
  settings : Option Settings
  purpose : Purpose
  /-- Whether the reply is added to the history at the end. Such a stream also counts a cancellation
  that comes after the last delta. -/
  records : Bool
  exchange : Exchange
  cancelled : Bool
  stage : ReplyStage

namespace ReplyStream

/-- Cancels on behalf of the caller. -/
def cancel (stream : ReplyStream) : ReplyStream :=
  { stream with
    cancelled := true
    stage :=
      match stream.stage with
      | .running completion sum => .running completion.cancel sum
      | other => other }

/-- The stream after its last item. -/
def finish (stream : ReplyStream) (cancelled : Bool) : ReplyStream :=
  { stream with cancelled := cancelled, stage := .done }

/-- Hands on the next item of the completion, and closes the reply behind the last one. -/
def advance (stream : ReplyStream) (completion : CompletionStream) (sum : Accumulator) :
    Item × List Request × ReplyStream :=
  match completion.poll with
  | (.delta d, requests, after) =>
    (.delta d, requests,
      { stream with cancelled := after.cancelled, stage := .running after (sum.push d) })
  | (.failed error, requests, after) => (.failed error, requests, stream.finish after.cancelled)
  | (.ended, requests, after) =>
    if stream.records then
      if after.cancelled then
        (.failed (.call .cancelled), requests, stream.finish after.cancelled)
      else
        (.ended, requests,
          { stream.finish after.cancelled with
            history := stream.history.push (sum.finish stream.service.model) })
    else (.ended, requests, stream.finish after.cancelled)

/-- The next item, and the requests sent to get it. The request is built when the first item is
asked for; that it cannot be is then the only item. -/
def poll (stream : ReplyStream) : Item × List Request × ReplyStream :=
  match stream.stage with
  | .done => (.ended, [], stream)
  | .running completion sum => stream.advance completion sum
  | .unasked =>
    match ChatRequest.forHistory stream.service.model stream.history stream.settings
        stream.purpose true with
    | .error error => (.failed error, [], stream.finish stream.cancelled)
    | .ok request =>
      stream.advance (.start stream.service.client request stream.cancelled stream.exchange) .empty

end ReplyStream

namespace ChatService

/-- A service with a client set up from the environment. -/
def ofEnvironment (environment : Environment) (model : String) : Except ClientError ChatService :=
  (Client.ofEnvironment environment).map fun client => ⟨client, model⟩

def attributes (service : ChatService) : List (String × String) :=
  modelAttributes service.model

/-- One whole completion for a conversation. -/
def complete (service : ChatService) (history : History) (settings : Option Settings)
    (purpose : Purpose) (cancelled : Bool) (exchange : Exchange) : Outcome ClientError Reply :=
  match ChatRequest.forHistory service.model history settings purpose false with
  | .error error => .unsent (.error error) cancelled
  | .ok request => (service.client.complete request cancelled exchange).bindResult Reply.ofResponse

/-- The conversation that a lone prompt makes. -/
def promptHistory (prompt : String) : History :=
  ⟨[.of .user prompt]⟩

/-- A whole reply to a conversation. -/
def reply (service : ChatService) (history : History) (settings : Option Settings)
    (cancelled : Bool) (exchange : Exchange) : Outcome ClientError Reply :=
  service.complete history settings .chat cancelled exchange

/-- A whole reply to a prompt. -/
def answer (service : ChatService) (prompt : String) (settings : Option Settings)
    (cancelled : Bool) (exchange : Exchange) : Outcome ClientError Reply :=
  service.complete (promptHistory prompt) settings .prompt cancelled exchange

/-- A streamed reply to a conversation. -/
def streamReply (service : ChatService) (history : History) (settings : Option Settings)
    (cancelled : Bool) (exchange : Exchange) : ReplyStream :=
  ⟨service, history, settings, .chat, true, exchange, cancelled, .unasked⟩

/-- A streamed reply to a prompt, which is kept in no history. -/
def streamAnswer (service : ChatService) (prompt : String) (settings : Option Settings)
    (cancelled : Bool) (exchange : Exchange) : ReplyStream :=
  ⟨service, promptHistory prompt, settings, .prompt, false, exchange, cancelled, .unasked⟩

end ChatService

end ChatClient
