import ChatClient.Client
import ChatClient.Stream.DeltaStream

/-! A streamed completion as its consumer sees it. Nothing is sent until the first item is asked
for, and what is not asked for is not read. -/

namespace ChatClient

open Http

/-- How far a streamed completion has come. -/
inductive Stage where
  | unsent
  | reading (deltas : DeltaStream)
  | done

structure CompletionStream where
  client : Client
  request : ChatRequest
  /-- What the server will do when the request is sent. -/
  exchange : Exchange
  /-- Whether the caller has cancelled. -/
  cancelled : Bool
  stage : Stage

namespace CompletionStream

/-- A completion that has not been sent yet. -/
def start (client : Client) (request : ChatRequest) (cancelled : Bool) (exchange : Exchange) :
    CompletionStream :=
  ⟨client, request, exchange, cancelled, .unsent⟩

def cancel (stream : CompletionStream) : CompletionStream :=
  { stream with cancelled := true }

/-- Takes the next delta from a body that is being read. -/
def readFrom (stream : CompletionStream) (deltas : DeltaStream) : Item × CompletionStream :=
  let observed := if stream.cancelled then deltas.cancel else deltas
  match observed.next with
  | (.delta d, after) =>
    (.delta d, { stream with cancelled := after.reader.cancelled, stage := .reading after })
  | (item, after) => (item, { stream with cancelled := after.reader.cancelled, stage := .done })

/-- The next item, and the requests sent to get it. A failure to open the stream is its only
item. -/
def poll (stream : CompletionStream) : Item × List Request × CompletionStream :=
  match stream.stage with
  | .done => (.ended, [], stream)
  | .reading deltas =>
    let (item, after) := stream.readFrom deltas
    (item, [], after)
  | .unsent =>
    let opened := stream.client.openCompletion stream.request stream.cancelled stream.exchange
    let stream := { stream with cancelled := opened.cancelled }
    match opened.result with
    | .error error => (.failed error, opened.requests, { stream with stage := .done })
    | .ok reader =>
      let (item, after) := stream.readFrom (.ofReader reader)
      (item, opened.requests, after)

end CompletionStream

end ChatClient
