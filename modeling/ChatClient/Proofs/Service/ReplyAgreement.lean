import ChatClient.Proofs.Service.ReplyHistory
import ChatClient.Proofs.Service.Sending
import ChatClient.Proofs.Stream.Cancellation

/-! Streamed and whole replies agree. However a text is cut into fragments, and whatever else comes
between them, the turn that a streamed reply adds to the history is the one that the reply makes
which has the text as a whole. -/
namespace ChatClient.ReplyAgreement
open Http Json StreamLines LineReading StreamPayloads DeltaReading ReplyHistory Sending

/-- Whether a line carries an event of this model, with this chunk. -/
structure Carries (model text : String) (chunk : Chunk) : Prop where
  decoded : ∃ payload, contentOf text = some payload ∧ decodeText Chunk.decode payload = .ok chunk
  named : chunk.model = model

/-- Whether the server gives a reason to finish with a choice. -/
def finishes (choice : StreamChoice) : Bool :=
  choice.finishReason.getD "" ≠ ""

/-- The lines of a completion that one model streams, and the choices that they bring up to the
first that finishes. Events may bring no choice, one or many. What stands behind the end marker, or
behind the choice that finishes, may be anything. -/
inductive Streams (model : String) : List Line → List StreamChoice → Prop where
  | ended : Streams model [] []
  | marker (text : String) (later : List Line) (marked : contentOf text = some "[DONE]") :
      Streams model (.ok text :: later) []
  | blank (text : String) (lines : List Line) (choices : List StreamChoice)
      (empty : contentOf text = none) (rest : Streams model lines choices) :
      Streams model (.ok text :: lines) choices
  | event (text : String) (chunk : Chunk) (lines : List Line) (choices : List StreamChoice)
      (carries : Carries model text chunk) (going : ∀ choice ∈ chunk.choices, finishes choice = false)
      (rest : Streams model lines choices) :
      Streams model (.ok text :: lines) (chunk.choices ++ choices)
  | finish (text : String) (chunk : Chunk) (later : List Line) (before after : List StreamChoice)
      (last : StreamChoice) (carries : Carries model text chunk)
      (split : chunk.choices = before ++ last :: after)
      (going : ∀ choice ∈ before, finishes choice = false) (final : finishes last = true) :
      Streams model (.ok text :: later) (before ++ [last])

/-- The text fragments of the first choice, one for each time that it is listed. A missing content
is the empty fragment. -/
def fragments (choices : List StreamChoice) : List String :=
  (choices.filter fun choice => choice.index = 0).map fun choice => choice.delta.content.getD ""

/-- A response that streams a text by a model, cut into fragments in some way. -/
structure StreamsText (model text : String) (choices : List StreamChoice)
    (response : Response) : Prop where
  success : isSuccess response.status = true
  streams : Streams model (findings (bytesOf response.reads) (closeOf response.reads)) choices
  begun : fragments choices ≠ []
  joined : String.join (fragments choices) = text

/-- A response that holds a text by a model in its first choice. -/
structure HoldsText (model text : String) (response : Response) : Prop where
  success : isSuccess response.status = true
  whole : response.ending = .complete
  body : ∃ answer first others,
    decodeBytes ChatResponse.decode response.chunks.flatten = .ok answer ∧
      answer.model = model ∧ answer.choices = first :: others ∧ first.message.content = some text

section Items
variable {model : String} {lines : List Line} {choices : List StreamChoice}

theorem closes_choice (model : Option String) (choice : StreamChoice) :
    closes (.delta (choice.toDelta model)) = finishes choice := rfl

private theorem open_choices {model : Option String}
    (going : ∀ choice ∈ choices, finishes choice = false) :
    ∀ item ∈ choices.map fun choice => Item.delta (choice.toDelta model), closes item = false := by
  intro item member
  obtain ⟨choice, listed, rfl⟩ := List.mem_map.mp member
  exact going choice listed

theorem marker_no_chunk (chunk : Chunk) : decodeText Chunk.decode "[DONE]" ≠ .ok chunk := by
  have refused : (decodeText Chunk.decode "[DONE]").toBool = false := by decide +kernel
  intro decoded
  rw [decoded] at refused
  cases refused

private theorem chunks_event {text : String} {chunk : Chunk} (carries : Carries model text chunk)
    (rest : List Line) : chunks (.ok text :: rest) = .ok chunk :: chunks rest := by
  obtain ⟨payload, carried, decoded⟩ := carries.decoded
  have unmarked : payload ≠ "[DONE]" := by
    rintro rfl
    exact marker_no_chunk chunk decoded
  have held : DeltaReading.carries (.ok text) = true := by simp [DeltaReading.carries, carried]
  have other : isMarker (.ok text) = false := by
    simpa [isMarker, carried] using unmarked
  rw [chunks_carried held other, chunk_of_decoded carried decoded]

private theorem items_event {text : String} {chunk : Chunk} (named : model ≠ "")
    (carries : Carries model text chunk) :
    itemsOf (.ok chunk) = chunk.choices.map fun choice => .delta (choice.toDelta (some model)) := by
  have deltas := chunk_deltas chunk
  have name : chunk.namedModel = some model := by
    simp [Chunk.namedModel, carries.named, named]
  rw [Chunk.deltas, name] at deltas
  have same := congrArg (List.map Item.delta) deltas
  simpa [itemsOf, Function.comp_def] using same.symm

/-- A streamed completion hands out one delta for each choice, up to the one that finishes. -/
theorem items_of_streams (named : model ≠ "") (streams : Streams model lines choices) :
    items lines = choices.map fun choice => .delta (choice.toDelta (some model)) := by
  induction streams with
  | ended => rfl
  | marker text later marked =>
    have none : chunks (.ok text :: later) = [] :=
      chunks_marker (by simp [DeltaReading.carries, marked]) (by simp [isMarker, marked])
    rw [items, none]
    rfl
  | blank text lines choices empty rest ih =>
    have same : chunks (.ok text :: lines) = chunks lines :=
      chunks_blank (by simp [DeltaReading.carries, empty])
    rw [items, same]
    exact ih
  | event text chunk lines choices carries going rest ih =>
    rw [items, chunks_event carries, List.flatMap_cons, items_event named carries,
      through_append (open_choices going), List.map_append]
    exact congrArg _ ih
  | finish text chunk later before after last carries split going final =>
    rw [items, chunks_event carries, List.flatMap_cons, items_event named carries, split,
      List.map_append, List.append_assoc, through_append (open_choices going), List.map_cons,
      List.cons_append, through_last ((closes_choice _ last).trans final), List.map_append]
    rfl

/-- The deltas of the first choice add up to the turn of its fragments, by the model that they all
name. -/
theorem gathered_fragments (named : model ≠ "") (begun : fragments choices ≠ [])
    (fallback : String) :
    gatheredTurn fallback (choices.map (StreamChoice.toDelta (some model))) =
      ⟨.assistant, String.join (fragments choices), some model⟩ := by
  have first : primary (choices.map (StreamChoice.toDelta (some model))) =
      (choices.filter fun choice => choice.index = 0).map (StreamChoice.toDelta (some model)) := by
    rw [primary, List.filter_map]
    rfl
  have texts : (primary (choices.map (StreamChoice.toDelta (some model)))).map Delta.content =
      fragments choices := by
    rw [first, List.map_map]
    rfl
  have name : ((primary (choices.map (StreamChoice.toDelta (some model)))).filterMap
      Delta.model).find? (· ≠ "") = some model := by
    rw [first]
    cases listed : choices.filter fun choice => choice.index = 0 with
    | nil => simp [fragments, listed] at begun
    | cons choice rest => simp [StreamChoice.toDelta, named]
  simp only [gatheredTurn, texts, name, Option.getD_some, named, ↓reduceIte]

end Items

/-- Whether polls hand out these deltas and then the end, the first poll having been made. -/
def Yields (polled : Item × List Request × ReplyStream) : List Delta → Prop
  | [] => polled.1 = .ended ∧ polled.2.2.stage = .done
  | delta :: rest => polled.1 = .delta delta ∧ Yields polled.2.2.poll rest

/-- What so many polls hand out when these deltas come and then the end. -/
def handedBy (deltas : List Delta) (polls : Nat) : List Item :=
  (deltas.map .delta).take polls ++ .replicate (polls - deltas.length) .ended

theorem handed_to_end_iff (deltas : List Delta) (polls : Nat) :
    ReadToEnd (handedBy deltas polls) ↔ deltas.length < polls := by
  have unfailed : ∀ error, .failed error ∉ handedBy deltas polls := by
    intro error member
    rcases List.mem_append.mp member with delta | ended
    · simpa using List.mem_of_mem_take delta
    · simpa using List.eq_of_mem_replicate ended
  have unended : .ended ∉ (deltas.map Item.delta).take polls := fun member => by
    simpa using List.mem_of_mem_take member
  simp only [ReadToEnd, unfailed, not_false_eq_true, implies_true, and_true]
  simp only [handedBy, List.mem_append, unended, List.mem_replicate, false_or, and_true]
  omega

theorem deltas_handed {deltas : List Delta} {polls : Nat} (enough : deltas.length < polls) :
    deltasOf (handedBy deltas polls) = deltas := by
  have all : (deltas.map Item.delta).take polls = deltas.map .delta :=
    List.take_of_length_le (by simpa using Nat.le_of_lt enough)
  have none : deltasOf (.replicate (polls - deltas.length) .ended) = [] :=
    List.filterMap_eq_nil_iff.mpr fun item member => by rw [List.eq_of_mem_replicate member]
  rw [handedBy, all, deltasOf, List.filterMap_append, List.filterMap_map]
  rw [deltasOf] at none
  rw [none, List.append_nil]
  exact List.filterMap_some

/-- A stream of deltas that has these still to come, and a token that is not cancelled. -/
structure Coming (stream : DeltaStream) (deltas : List Delta) : Prop where
  ready : Ready stream
  going : stream.reader.cancelled = false
  ahead : itemsAhead stream = deltas.map .delta

section Polls
variable {stream : DeltaStream} {deltas : List Delta}

private theorem next_coming {delta : Delta} {rest : List Delta}
    (coming : Coming stream (delta :: rest)) :
    stream.next.1 = .delta delta ∧ Coming stream.next.2 rest := by
  have hands := next_hands stream coming.ready
  rw [coming.ahead] at hands
  have item : stream.next.1 = .delta delta := hands.handed
  have still := StreamCancellation.going_behind_next coming.going (by simp [item])
  exact ⟨item, hands.ready, still, hands.left⟩

private theorem next_over (coming : Coming stream []) :
    stream.next.1 = .ended ∧ stream.next.2.reader.cancelled = false := by
  have hands := next_hands stream coming.ready
  rw [coming.ahead] at hands
  have item : stream.next.1 = .ended := hands.handed
  exact ⟨item, StreamCancellation.going_behind_next coming.going (by simp [item])⟩

/-- A reply hands on what its completion reads. The induction is on the deltas still to come; each
poll behind the first reads on from where the one before it left the stream. -/
theorem advance_yields (reply : ReplyStream) (completion source : CompletionStream)
    (sum : Accumulator) (requests : List Request) (going : source.cancelled = false)
    (polled : completion.poll =
      ((source.readFrom stream).1, requests, (source.readFrom stream).2))
    (coming : Coming stream deltas) : Yields (reply.advance completion sum) deltas := by
  induction deltas generalizing reply completion source sum requests stream with
  | nil =>
    obtain ⟨item, still⟩ := next_over coming
    rcases read : stream.next with ⟨_, after⟩
    rw [read] at item still
    subst item
    have still : after.reader.cancelled = false := still
    have last : completion.poll =
        (.ended, requests, { source with cancelled := false, stage := .done }) := by
      rw [polled]
      simp [CompletionStream.readFrom, going, read, still]
    unfold ReplyStream.advance
    rw [last]
    cases reply.records <;> exact ⟨rfl, rfl⟩
  | cons delta rest ih =>
    obtain ⟨item, later⟩ := next_coming coming
    rcases read : stream.next with ⟨_, after⟩
    rw [read] at item later
    subst item
    have still : after.reader.cancelled = false := later.going
    have first : completion.poll =
        (.delta delta, requests, { source with cancelled := false, stage := .reading after }) := by
      rw [polled]
      simp [CompletionStream.readFrom, going, read, still]
    unfold ReplyStream.advance
    rw [first]
    refine ⟨rfl, ?_⟩
    exact ih _ _ _ _ [] rfl rfl later

/-- Polls of a reply hand out what it yields, and then the end for as long as they go on. -/
theorem consume_yields (reply : ReplyStream) (polls : Nat) (yields : Yields reply.poll deltas) :
    (consume reply (.replicate polls .poll)).items = handedBy deltas polls := by
  induction polls generalizing reply deltas with
  | zero => simp [consume, handedBy]
  | succ polls ih =>
    rw [List.replicate_succ, consume]
    cases deltas with
    | nil =>
      obtain ⟨ended, done⟩ := yields
      have behind := (consume_finished reply.poll.2.2 (.replicate polls .poll) done).1
      simp [behind, ended, handedBy, List.replicate_succ]
    | cons delta rest =>
      obtain ⟨first, later⟩ := yields
      have behind := ih _ later
      simp [behind, first, handedBy]

end Polls

section Requests
variable {service : ChatService} {history : History} {settings : Option Settings}
  {model text : String} {choices : List StreamChoice} {response : Response}

/-- A streamed reply that reaches its server yields one delta for each choice that it is sent. -/
theorem reply_yields (spoken : history.turns ≠ [])
    (reaches : Reaches service.client.config Client.completions) (named : model ≠ "")
    (streamed : StreamsText model text choices response) :
    Yields (service.streamReply history settings false (.answered response)).poll
      (choices.map (StreamChoice.toDelta (some model))) := by
  obtain ⟨request, asked⟩ := request_for_history service.model settings .chat true spoken
  let start : CompletionStream := .start service.client request false (.answered response)
  obtain ⟨requests, opened⟩ := open_success request reaches streamed.success
  have polled : start.poll =
      ((start.readFrom (.ofReads response.reads false)).1, requests,
        (start.readFrom (.ofReads response.reads false)).2) := by
    simp only [start, CompletionStream.start, CompletionStream.poll, opened]
    rfl
  have coming : Coming (.ofReads response.reads false)
      (choices.map (StreamChoice.toDelta (some model))) := by
    refine ⟨fun _ => ⟨settled_ofReads _ _, rfl⟩, rfl, ?_⟩
    have found := items_of_streams named streamed.streams
    rw [items] at found
    simp [itemsAhead, DeltaStream.ofReads, DeltaStream.ofReader, ahead_ofReads, found]
  simp only [ChatService.streamReply, ReplyStream.poll, asked]
  exact advance_yields _ start start _ requests rfl polled coming

/-- A whole reply that reaches its server is the text in the first choice, by the model named. -/
theorem reply_of_text (spoken : history.turns ≠ [])
    (reaches : Reaches service.client.config Client.completions) (named : model ≠ "")
    (holds : HoldsText model text response) :
    ∃ reply, (service.reply history settings false (.answered response)).result = .ok reply ∧
      reply.toTurn = ⟨.assistant, text, some model⟩ := by
  obtain ⟨request, asked⟩ := request_for_history service.model settings .chat false spoken
  obtain ⟨answer, first, others, decoded, answered, listed, content⟩ := holds.body
  have body : decodeBody ChatResponse.decode response.status response.chunks.flatten =
      .ok answer := by
    simp [decodeBody, decoded]
  have whole : (service.client.complete request false (.answered response)).result = .ok answer :=
    (complete_success request reaches holds.success holds.whole).trans
      (congrArg (Except.mapError ClientError.call) body)
  simp only [ChatService.reply, ChatService.complete, asked, Outcome.bindResult, whole, Except.bind,
    Reply.ofResponse, listed]
  exact ⟨_, rfl, by simp [Reply.toTurn, Turn.byModel, content, answered, named]⟩

end Requests

/-- A whole reply makes the assistant's turn with its text and model, and a streamed reply with the
same text puts that same turn behind the history, if the consumer reads it to its end; and it takes
one poll for each choice and one more to get there. -/
theorem streamed_turn_is_turn_of_whole_reply (service : ChatService) (history : History)
    (settings : Option Settings) (model text : String) (choices : List StreamChoice)
    (streamed whole : Response) (spoken : history.turns ≠ [])
    (reaches : Reaches service.client.config Client.completions) (named : model ≠ "")
    (streams : StreamsText model text choices streamed) (holds : HoldsText model text whole) :
    ∃ reply, (service.reply history settings false (.answered whole)).result = .ok reply ∧
      reply.toTurn = ⟨.assistant, text, some model⟩ ∧
      ∀ polls : Nat,
        let consumed :=
          consume (service.streamReply history settings false (.answered streamed))
            (.replicate polls .poll)
        (ReadToEnd consumed.items ↔ choices.length < polls) ∧
          (ReadToEnd consumed.items → consumed.stream.history.turns =
            history.turns ++ [⟨.assistant, text, some model⟩]) := by
  obtain ⟨reply, told, turn⟩ := reply_of_text spoken reaches named holds
  refine ⟨reply, told, turn, fun polls => ?_⟩
  intro consumed
  let reading := service.streamReply history settings false (.answered streamed)
  have items : consumed.items = handedBy (choices.map (StreamChoice.toDelta (some model))) polls :=
    consume_yields reading polls (reply_yields spoken reaches named streams)
  have read : ReadToEnd consumed.items ↔ choices.length < polls := by
    rw [items, handed_to_end_iff, List.length_map]
  refine ⟨read, fun ended => ?_⟩
  have enough : (choices.map (StreamChoice.toDelta (some model))).length < polls := by
    simpa using read.mp ended
  have course := consume_course reading (.replicate polls .poll) rfl .unasked
  rcases course_ends course with ⟨-, written, -⟩ | ⟨unread, -⟩
  · rw [finish_gathers] at written
    have gathered := gathered_fragments named streams.begun service.model
    rw [streams.joined, ← deltas_handed enough, ← items] at gathered
    rw [← gathered]
    exact congrArg History.turns written
  · exact absurd ended unread

/-- A text in two fragments makes the turn of the text as a whole: behind an event of the role alone
and one without choices, with another choice and a blank line between the fragments, and with a
break behind the event that finishes. -/
theorem streamed_turn_is_turn_of_whole_hello :
    let service : ChatService := ⟨.withKey "key", "other"⟩
    let history : History := ⟨[.of .user "Hi"]⟩
    let opening := "\x7b\"model\":\"m\",\"choices\":[\x7b\"index\":0,\"delta\":\x7b" ++
      "\"role\":\"assistant\",\"content\":null\x7d\x7d]\x7d"
    let bare := "\x7b\"model\":\"m\",\"choices\":[]\x7d"
    let middle := "\x7b\"model\":\"m\",\"choices\":[\x7b\"index\":0,\"delta\":\x7b" ++
      "\"content\":\"Hel\"\x7d\x7d,\x7b\"index\":1,\"delta\":\x7b\"content\":\"no\"\x7d\x7d]\x7d"
    let closing := "\x7b\"model\":\"m\",\"choices\":[\x7b\"index\":0,\"delta\":\x7b" ++
      "\"content\":\"lo\"\x7d,\"finish_reason\":\"stop\"\x7d]\x7d"
    let body := "\x7b\"model\":\"m\",\"choices\":[\x7b\"index\":0,\"message\":\x7b" ++
      "\"content\":\"Hello\"\x7d\x7d]\x7d"
    let choices : List StreamChoice :=
      [⟨0, ⟨some "assistant", none, none⟩, none⟩, ⟨0, ⟨none, some "Hel", none⟩, none⟩,
        ⟨1, ⟨none, some "no", none⟩, none⟩, ⟨0, ⟨none, some "lo", none⟩, some "stop"⟩]
    let streamed : Response :=
      ⟨200, [Text.Utf8.encode ("data: " ++ opening ++ "\n" ++ bare ++ "\ndata: " ++ middle ++ "\r"),
        Text.Utf8.encode ("\n\ndata: " ++ closing ++ "\nlate")], .broken⟩
    let whole : Response := ⟨200, [Text.Utf8.encode body], .complete⟩
    (history.turns ≠ [] ∧ Reaches service.client.config Client.completions ∧ "m" ≠ "" ∧
      StreamsText "m" "Hello" choices streamed ∧ HoldsText "m" "Hello" whole) ∧
      ∃ reply, (service.reply history none false (.answered whole)).result = .ok reply ∧
        reply.toTurn = ⟨.assistant, "Hello", some "m"⟩ ∧
        (consume (service.streamReply history none false (.answered streamed))
          (.replicate 5 .poll)).stream.history.turns =
            [⟨.user, "Hi", none⟩, ⟨.assistant, "Hello", some "m"⟩] := by
  intro service history opening bare middle closing body choices streamed whole
  have spoken : history.turns ≠ [] := List.cons_ne_nil _ _
  have reaches : Reaches service.client.config Client.completions := by decide +kernel
  have named : "m" ≠ "" := by decide
  have found : findings (bytesOf streamed.reads) (closeOf streamed.reads) =
      [.ok ("data: " ++ opening), .ok bare, .ok ("data: " ++ middle), .ok "",
        .ok ("data: " ++ closing), .error .exchange] := by
    decide +kernel
  have first : Carries "m" ("data: " ++ opening) ⟨"", "", 0, "m", choices.take 1, none⟩ :=
    ⟨⟨opening, by decide +kernel, by decide +kernel⟩, rfl⟩
  have second : Carries "m" bare ⟨"", "", 0, "m", [], none⟩ :=
    ⟨⟨bare, by decide +kernel, by decide +kernel⟩, rfl⟩
  have third : Carries "m" ("data: " ++ middle) ⟨"", "", 0, "m", (choices.drop 1).take 2, none⟩ :=
    ⟨⟨middle, by decide +kernel, by decide +kernel⟩, rfl⟩
  have last : Carries "m" ("data: " ++ closing) ⟨"", "", 0, "m", choices.drop 3, none⟩ :=
    ⟨⟨closing, by decide +kernel, by decide +kernel⟩, rfl⟩
  have blank : contentOf "" = none := by decide +kernel
  have streams :
      Streams "m" (findings (bytesOf streamed.reads) (closeOf streamed.reads)) choices := by
    rw [found]
    refine .event _ _ _ _ first (by decide +kernel) (.event _ _ _ _ second (by decide +kernel) ?_)
    refine .event _ _ _ _ third (by decide +kernel) (.blank _ _ _ blank ?_)
    exact .finish _ _ _ [] [] _ last rfl (by simp) (by decide +kernel)
  have streamsText : StreamsText "m" "Hello" choices streamed :=
    ⟨rfl, streams, by decide +kernel, by decide +kernel⟩
  have holds : HoldsText "m" "Hello" whole :=
    ⟨rfl, rfl, ⟨"", "", 0, "m", [⟨0, ⟨"", some "Hello", none⟩, none⟩], none⟩,
      ⟨0, ⟨"", some "Hello", none⟩, none⟩, [], by decide +kernel, rfl, rfl, rfl⟩
  obtain ⟨reply, told, turn, agree⟩ :=
    streamed_turn_is_turn_of_whole_reply service history none "m" "Hello" choices streamed whole
      spoken reaches named streamsText holds
  exact ⟨⟨spoken, reaches, named, streamsText, holds⟩, reply, told, turn,
    (agree 5).2 ((agree 5).1.mpr (by decide))⟩

end ChatClient.ReplyAgreement
