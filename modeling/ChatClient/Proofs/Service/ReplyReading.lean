import ChatClient.Proofs.Service.ReplyHistory
import ChatClient.Proofs.Service.Sending
import ChatClient.Proofs.Stream.Cancellation

/-! What replies make of an answer. Every poll of a stream that finds its answer open takes one item
from the deltas on the body; what becomes of that item is said here once, for both kinds of streams.
From it follows what a consumer gets that only polls: the items that the whole body holds, one a
poll. A reply that does not come as a stream decodes the same body at once. -/
namespace ChatClient.ReplyReading
open Http Json StreamLines LineReading DeltaReading ReplyHistory Sending StreamCancellation

/-- The next item of a stream of deltas for a caller who may have cancelled. -/
def nextFor (token : Bool) (deltas : DeltaStream) : Item × DeltaStream :=
  (if token then deltas.cancel else deltas).next

/-- A completion takes its next item from these deltas, under this token. -/
def Reads (completion : CompletionStream) (token : Bool) (deltas : DeltaStream) : Prop :=
  ∃ (source : CompletionStream) (requests : List Request), source.cancelled = token ∧
    completion.poll = ((source.readFrom deltas).1, requests, (source.readFrom deltas).2)

/-- What a reply makes of the item that its completion has read. It goes on behind a delta only; and
a reply that goes into the history makes a failure of an end that comes with a cancelled token. -/
inductive Advances (stream : ReplyStream) (read : Item × DeltaStream) :
    Item → ReplyStream → Prop where
  | delta (delta : Delta) (after : ReplyStream) (completion : CompletionStream) (sum : Accumulator)
      (item : read.1 = .delta delta) (stage : after.stage = .running completion sum)
      (reading : completion.stage = .reading read.2)
      (shared : completion.cancelled = after.cancelled)
      (token : after.cancelled = read.2.reader.cancelled) :
      Advances stream read (.delta delta) after
  | failed (error : ClientError) (after : ReplyStream) (item : read.1 = .failed error)
      (done : after.stage = .done) : Advances stream read (.failed error) after
  | ended (after : ReplyStream) (item : read.1 = .ended) (done : after.stage = .done)
      (quiet : stream.records = false ∨ read.2.reader.cancelled = false) :
      Advances stream read .ended after
  | stopped (after : ReplyStream) (item : read.1 = .ended) (done : after.stage = .done)
      (records : stream.records = true) (token : read.2.reader.cancelled = true) :
      Advances stream read (.failed (.call .cancelled)) after

section Steps
variable {completion : CompletionStream} {token : Bool} {deltas : DeltaStream}

theorem read_from_eq (source : CompletionStream) (deltas : DeltaStream) :
    source.readFrom deltas =
      match nextFor source.cancelled deltas with
      | (.delta delta, after) =>
        (.delta delta,
          { source with cancelled := after.reader.cancelled, stage := .reading after })
      | (item, after) =>
        (item, { source with cancelled := after.reader.cancelled, stage := .done }) := rfl

/-- A body that is being read is read on. -/
theorem reads_of_reading (reading : completion.stage = .reading deltas) :
    Reads completion completion.cancelled deltas :=
  ⟨completion, [], rfl, by simp [CompletionStream.poll, reading]⟩

/-- A completion that is sent for reads the body of the answer from its start. -/
theorem start_reads {client : Client} {request : ChatRequest} {cancelled : Bool}
    {exchange : Exchange} {reader : LineReader} {requests : List Request}
    (opened : client.openCompletion request cancelled exchange = ⟨.ok reader, requests, token⟩) :
    Reads (.start client request cancelled exchange) token (.ofReader reader) := by
  let start := CompletionStream.start client request cancelled exchange
  exact ⟨{ start with cancelled := token }, requests, rfl,
    by simp [start, CompletionStream.poll, CompletionStream.start, opened]⟩

/-- One poll of a reply whose answer is open. -/
theorem advance_advances (stream : ReplyStream) (sum : Accumulator)
    (reads : Reads completion token deltas) :
    Advances stream (nextFor token deltas) (stream.advance completion sum).1
      (stream.advance completion sum).2.2 := by
  obtain ⟨source, requests, rfl, polled⟩ := reads
  rw [read_from_eq] at polled
  unfold ReplyStream.advance
  rcases read : nextFor source.cancelled deltas with ⟨item, after⟩
  rw [read] at polled
  cases item with
  | delta delta =>
    rw [polled]
    exact .delta delta _ _ _ rfl rfl rfl rfl rfl
  | failed error =>
    rw [polled]
    exact .failed error _ rfl rfl
  | ended =>
    rw [polled]
    dsimp only
    split
    · rename_i records
      split
      · rename_i cancelled
        exact .stopped _ rfl rfl records cancelled
      · rename_i going
        exact .ended _ rfl rfl (.inr (by simpa using going))
    · rename_i unrecorded
      exact .ended _ rfl rfl (.inl (by simpa using unrecorded))

end Steps

/-- What so many polls get from a stream that has these items to hand out. Behind them it only
reports its end. -/
def handed (list : List Item) (polls : Nat) : List Item :=
  list.take polls ++ .replicate (polls - list.length) .ended

/-- A reply that has these items still to hand out, as long as nobody cancels. -/
inductive Holds (stream : ReplyStream) : List Item → Prop where
  | done (finished : stream.stage = .done) : Holds stream []
  | reading (deltas : DeltaStream) (completion : CompletionStream) (sum : Accumulator)
      (stage : stream.stage = .running completion sum) (reads : completion.stage = .reading deltas)
      (token : completion.cancelled = false) (ready : Ready deltas)
      (going : deltas.reader.cancelled = false) : Holds stream (itemsAhead deltas)

section Polls
variable {stream : ReplyStream} {completion : CompletionStream} {deltas : DeltaStream}
  {list : List Item}

theorem handed_succ (list : List Item) (polls : Nat) :
    handed list (polls + 1) = list.headD .ended :: handed list.tail polls := by
  cases list with
  | nil => simp [handed, List.replicate_succ]
  | cons first rest => simp [handed]

theorem items_ahead_through (deltas : DeltaStream) :
    through closes (itemsAhead deltas) = itemsAhead deltas := by
  unfold itemsAhead
  split
  · rfl
  · exact through_through _ _

/-- Nothing is ahead behind an item that closes. -/
private theorem nothing_behind_last (last : closes ((itemsAhead deltas).headD .ended) = true) :
    (itemsAhead deltas).tail = [] := by
  have cut := items_ahead_through deltas
  cases listed : itemsAhead deltas with
  | nil => rfl
  | cons first rest =>
    rw [listed] at cut last
    exact tail_of_last cut last

/-- A poll takes the first of the items that the body has ahead. -/
theorem advance_holds (stream : ReplyStream) (sum : Accumulator)
    (reads : Reads completion false deltas) (ready : Ready deltas)
    (going : deltas.reader.cancelled = false) :
    (stream.advance completion sum).1 = (itemsAhead deltas).headD .ended ∧
      Holds (stream.advance completion sum).2.2 (itemsAhead deltas).tail := by
  have hands := next_hands deltas ready
  have advances := advance_advances stream sum reads
  have same : nextFor false deltas = deltas.next := rfl
  rw [same] at advances
  generalize (stream.advance completion sum).1 = item at advances ⊢
  generalize (stream.advance completion sum).2.2 = after at advances ⊢
  cases advances with
  | delta delta _ next sum found stage reading shared token =>
    have still : deltas.next.2.reader.cancelled = false := going_behind_next going (by simp [found])
    refine ⟨found.symm.trans hands.handed, ?_⟩
    rw [← hands.left]
    exact .reading _ next sum stage reading (shared.trans (token.trans still)) hands.ready still
  | failed error _ found done =>
    have first := found.symm.trans hands.handed
    rw [nothing_behind_last (first ▸ rfl)]
    exact ⟨first, .done done⟩
  | ended _ found done =>
    have first := found.symm.trans hands.handed
    rw [nothing_behind_last (first ▸ rfl)]
    exact ⟨first, .done done⟩
  | stopped _ found done records token =>
    have still := going_behind_next going (by simp [found])
    rw [still] at token
    cases token

theorem poll_holds (holds : Holds stream list) :
    stream.poll.1 = list.headD .ended ∧ Holds stream.poll.2.2 list.tail := by
  cases holds with
  | done finished =>
    have polled : stream.poll = (.ended, [], stream) := by simp [ReplyStream.poll, finished]
    rw [polled]
    exact ⟨rfl, .done finished⟩
  | reading deltas completion sum stage reading token ready going =>
    have polled : stream.poll = stream.advance completion sum := by simp [ReplyStream.poll, stage]
    have reads := reads_of_reading reading
    rw [token] at reads
    rw [polled]
    exact advance_holds stream sum reads ready going

theorem consume_holds (stream : ReplyStream) (polls : Nat) (holds : Holds stream list) :
    (consume stream (.replicate polls .poll)).items = handed list polls := by
  induction polls generalizing stream list with
  | zero => simp [consume, handed]
  | succ polls ih =>
    obtain ⟨first, rest⟩ := poll_holds holds
    rw [handed_succ, ← first, ← ih _ rest]
    rfl

/-- Polls of a reply that is answered with success hand out the items of the body, in order. -/
theorem consume_answered (response : Response) (polls : Nat) (unasked : stream.stage = .unasked)
    (going : stream.cancelled = false) (answered : stream.exchange = .answered response)
    (spoken : stream.history.turns ≠ [])
    (reaches : Reaches stream.service.client.config Client.completions)
    (success : isSuccess response.status = true) :
    (consume stream (.replicate polls .poll)).items =
      handed (items (findings (bytesOf response.reads) (closeOf response.reads))) polls := by
  obtain ⟨request, asked⟩ :=
    request_for_history stream.service.model stream.settings stream.purpose true spoken
  obtain ⟨requests, opened⟩ := open_success request reaches success
  let start : CompletionStream := .start stream.service.client request false (.answered response)
  have reads : Reads start false (.ofReads response.reads false) := start_reads opened
  have ahead : itemsAhead (.ofReads response.reads false) =
      items (findings (bytesOf response.reads) (closeOf response.reads)) := by
    simp [itemsAhead, DeltaStream.ofReads, DeltaStream.ofReader, ahead_ofReads, items]
  have ready : Ready (.ofReads response.reads false) := fun _ => ⟨settled_ofReads _ _, rfl⟩
  obtain ⟨first, rest⟩ := advance_holds stream .empty reads ready rfl
  have polled : stream.poll = stream.advance start .empty := by
    simp [ReplyStream.poll, unasked, asked, going, answered, start]
  rw [← polled, ahead] at first rest
  cases polls with
  | zero => simp [consume, handed]
  | succ polls =>
    rw [handed_succ, ← first, ← consume_holds _ polls rest]
    rfl

end Polls

/-- A whole reply that is answered with success is made of the answer that the body holds. -/
theorem complete_answered {service : ChatService} {history : History} {response : Response}
    (settings : Option Settings) (purpose : Purpose) (spoken : history.turns ≠ [])
    (reaches : Reaches service.client.config Client.completions)
    (success : isSuccess response.status = true) (whole : response.ending = .complete) :
    (service.complete history settings purpose false (.answered response)).result =
      ((decodeBody ChatResponse.decode response.status response.chunks.flatten).mapError .call).bind
        Reply.ofResponse := by
  obtain ⟨request, asked⟩ := request_for_history service.model settings purpose false spoken
  have body := complete_success request reaches success whole
  simp only [ChatService.complete, asked, Outcome.bindResult, body]

end ChatClient.ReplyReading
