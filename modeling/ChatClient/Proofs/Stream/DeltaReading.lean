import ChatClient.Proofs.Completion.RoundTrip
import ChatClient.Proofs.Stream.Calls
import ChatClient.Stream.DeltaStream

/-! A stream of deltas is read no further than its consumer asks, yet it hands out what one would
work out with the whole stream at hand: decode the events in front of the end marker, list the
deltas of all their choices, and cut that list behind the first final delta or the first failure.
-/
namespace ChatClient.DeltaReading
open Json StreamLines LineReading StreamCalls StreamPayloads RoundTrip

/-- The delta of one choice of a chunk. A choice without content adds the empty text, and a chunk
whose model is empty names none. -/
def deltaOf (chunk : Chunk) (choice : StreamChoice) : Delta where
  choiceIndex := choice.index
  role := choice.delta.role
  content :=
    match choice.delta.content with
    | some text => text
    | none => ""
  finishReason := choice.finishReason
  model := if chunk.model = "" then none else some chunk.model

/-- Whether a line carries a payload, or is a failure. -/
def carries : Line → Bool
  | .ok text => (contentOf text).isSome
  | .error _ => true

def isMarker : Line → Bool
  | .ok text => contentOf text = some "[DONE]"
  | .error _ => false

/-- The chunk that a line carries. -/
def chunkOf : Line → Except CallError Chunk
  | .error error => .error error
  | .ok text =>
    match decodeText Chunk.decode ((contentOf text).getD "") with
    | .ok chunk => .ok chunk
    | .error error => .error (.badEvent error text)

/-- The chunks on the lines in front of the end marker, and the failures among them. -/
def chunks (lines : List Line) : List (Except CallError Chunk) :=
  ((lines.filter carries).takeWhile fun line => !isMarker line).map chunkOf

def itemsOf : Except CallError Chunk → List Item
  | .ok chunk => chunk.choices.map fun choice => .delta (deltaOf chunk choice)
  | .error error => [.failed (.call error)]

/-- Whether an item is the last: a delta that gives a reason to finish, or a failure. -/
def closes : Item → Bool
  | .delta delta => delta.finishReason.getD "" ≠ ""
  | .failed _ => true
  | .ended => true

/-- All items of a stream with these lines. -/
def items (lines : List Line) : List Item :=
  through closes ((chunks lines).flatMap itemsOf)

theorem chunk_deltas (chunk : Chunk) : chunk.deltas = chunk.choices.map (deltaOf chunk) := by
  refine List.map_congr_left fun choice _ => ?_
  simp only [StreamChoice.toDelta, deltaOf, Chunk.namedModel, String.isEmpty_iff]
  cases choice.delta.content <;> rfl

theorem closes_delta (delta : Delta) : closes (.delta delta) = delta.isFinal := by
  unfold closes Delta.isFinal
  cases given : delta.finishReason with
  | none => simp [given]
  | some reason => by_cases empty : reason = "" <;> simp [given, empty]

section Chunks
variable {text payload : String}

theorem chunk_of_decoded {chunk : Chunk} (carried : contentOf text = some payload)
    (decoded : decodeText Chunk.decode payload = .ok chunk) : chunkOf (.ok text) = .ok chunk := by
  simp only [chunkOf, carried, Option.getD_some, decoded]

theorem chunk_of_refused {error : Error} (carried : contentOf text = some payload)
    (refused : decodeText Chunk.decode payload = .error error) :
    chunkOf (.ok text) = .error (.badEvent error text) := by
  simp only [chunkOf, carried, Option.getD_some, refused]

end Chunks

section Lists
variable {first : Line} {rest : List Line}

theorem chunks_blank (blank : carries first = false) :
    chunks (first :: rest) = chunks rest := by
  simp [chunks, blank]

theorem chunks_marker (carried : carries first = true) (marker : isMarker first = true) :
    chunks (first :: rest) = [] := by
  simp [chunks, carried, marker]

theorem chunks_carried (carried : carries first = true)
    (unmarked : isMarker first = false) : chunks (first :: rest) = chunkOf first :: chunks rest := by
  simp [chunks, carried, unmarked]

/-- A call for a chunk answers with the first chunk or failure on the lines ahead. -/
theorem chunks_by_answer (lines : List Line) :
    match (Call.event Chunk.decode).answer lines with
    | .ok none => chunks lines = []
    | .ok (some chunk) =>
      chunks lines = .ok chunk :: chunks ((Call.event Chunk.decode).leaves lines)
    | .error error => ∃ later, chunks lines = .error error :: later := by
  induction lines with
  | nil => rfl
  | cons first rest ih =>
    cases first with
    | error error =>
      rw [answer_acted rfl, chunks_carried rfl rfl]
      exact ⟨_, rfl⟩
    | ok text =>
      cases carried : contentOf text with
      | none =>
        have passed : (Call.event Chunk.decode).passes (.ok text) = true := event_passed carried
        rw [answer_passed passed, leaves_passed passed, chunks_blank (by simp [carries, carried])]
        exact ih
      | some payload =>
        have acted : (Call.event Chunk.decode).passes (.ok text) = false := event_acted carried
        have held : carries (.ok text) = true := by simp [carries, carried]
        rw [answer_acted acted, leaves_acted acted]
        by_cases marker : payload = "[DONE]"
        · rw [act_on_marker (marker ▸ carried)]
          exact chunks_marker held (by simp [isMarker, carried, marker])
        · rw [chunks_carried held (by simp [isMarker, carried, marker])]
          cases decoded : decodeText Chunk.decode payload with
          | ok chunk =>
            rw [act_on_event carried marker decoded, chunk_of_decoded carried decoded]
            rfl
          | error error =>
            rw [act_on_fault carried marker decoded, chunk_of_refused carried decoded]
            exact ⟨_, rfl⟩

end Lists

/-- The items that a stream has still to hand out. -/
def itemsAhead (stream : DeltaStream) : List Item :=
  if stream.finished then []
  else
    through closes (stream.queued.map .delta ++ (chunks (ahead stream.reader)).flatMap itemsOf)

/-- What a stream keeps to between calls. One that is over needs nothing of its reader. -/
def Ready (stream : DeltaStream) : Prop :=
  stream.finished = false → Settled stream.reader ∧ stream.reader.cancelled = false

/-- How one call must come out when `list` is what the stream has still to hand out. -/
structure Hands (list : List Item) (item : Item) (after : DeltaStream) : Prop where
  handed : item = list.headD .ended
  ready : Ready after
  left : itemsAhead after = list.tail

section Steps
variable {reader : LineReader}

private theorem finish_ready (reader : LineReader) : Ready (.finish reader) := by
  simp [Ready, DeltaStream.finish]

private theorem finish_ahead (reader : LineReader) : itemsAhead (.finish reader) = [] := by
  simp [itemsAhead, DeltaStream.finish]

/-- The first delta at hand goes out, and ends the stream if it is final. -/
private theorem hand_out_hands (delta : Delta) (rest : List Delta) (settled : Settled reader)
    (going : reader.cancelled = false) :
    Hands (through closes
        (.delta delta :: (rest.map .delta ++ (chunks (ahead reader)).flatMap itemsOf)))
      (DeltaStream.handOut reader delta rest).1 (DeltaStream.handOut reader delta rest).2 := by
  simp only [DeltaStream.handOut, LineReader.checkCancelled, going, Bool.false_eq_true, ↓reduceIte]
  cases final : delta.isFinal with
  | true =>
    rw [through_last ((closes_delta delta).trans final)]
    exact ⟨rfl, finish_ready _, finish_ahead _⟩
  | false =>
    rw [through_more ((closes_delta delta).trans final)]
    exact ⟨rfl, fun _ => ⟨settled, going⟩, by simp [itemsAhead]⟩

/-- Without deltas at hand the stream reads until a chunk brings some. Chunks without choices add no
items, so what is ahead stays the same while they are read. -/
private theorem read_on_hands (settled : Settled reader) (going : reader.cancelled = false) :
    Hands (through closes ((chunks (ahead reader)).flatMap itemsOf))
      (DeltaStream.readOn reader).1 (DeltaStream.readOn reader).2 := by
  fun_induction DeltaStream.readOn reader with
  | case1 reader error after read =>
    have told := chunks_by_answer (ahead reader)
    rw [(served_of_next_event settled going read).1] at told
    obtain ⟨later, found⟩ := told
    rw [found, List.flatMap_cons, itemsOf, List.singleton_append, through_last rfl]
    exact ⟨rfl, finish_ready _, finish_ahead _⟩
  | case2 reader after read =>
    have told := chunks_by_answer (ahead reader)
    rw [(served_of_next_event settled going read).1] at told
    rw [told]
    exact ⟨rfl, finish_ready _, finish_ahead _⟩
  | case3 reader after chunk read none ih =>
    obtain ⟨answered, served⟩ := served_of_next_event settled going read
    have told := chunks_by_answer (ahead reader)
    rw [answered] at told
    rw [chunk_deltas, List.map_eq_nil_iff] at none
    rw [told, List.flatMap_cons, itemsOf, none, List.map_nil, List.nil_append, ← served.left]
    exact ih served.settled (served.going _ rfl)
  | case4 reader chunk after read delta rest listed =>
    obtain ⟨answered, served⟩ := served_of_next_event settled going read
    have told := chunks_by_answer (ahead reader)
    rw [answered] at told
    have mapped : itemsOf (.ok chunk) = .delta delta :: rest.map .delta := by
      rw [← List.map_cons, ← listed, chunk_deltas, List.map_map]
      rfl
    rw [told, List.flatMap_cons, mapped, List.cons_append, ← served.left]
    exact hand_out_hands delta rest served.settled (served.going _ rfl)

/-- One call hands out the first item ahead, or reports the end for good. -/
theorem next_hands (stream : DeltaStream) (ready : Ready stream) :
    Hands (itemsAhead stream) stream.next.1 stream.next.2 := by
  unfold DeltaStream.next itemsAhead
  cases finished : stream.finished with
  | true => exact ⟨rfl, ready, by simp [itemsAhead, finished]⟩
  | false =>
    obtain ⟨settled, going⟩ := ready finished
    cases stream.queued with
    | nil => exact read_on_hands settled going
    | cons delta rest => exact hand_out_hands delta rest settled going

end Steps

section Cancellation

private theorem hand_out_keeps_cancelled {reader : LineReader} (delta : Delta) (rest : List Delta)
    (stopped : reader.cancelled = true) :
    (DeltaStream.handOut reader delta rest).2.reader.cancelled = true := by
  simp [DeltaStream.handOut, LineReader.checkCancelled, stopped, DeltaStream.finish]

private theorem read_on_keeps_cancelled {reader : LineReader} (stopped : reader.cancelled = true) :
    (DeltaStream.readOn reader).2.reader.cancelled = true := by
  fun_induction DeltaStream.readOn reader with
  | case1 reader error after read => exact next_event_keeps_cancelled stopped read
  | case2 reader after read => exact next_event_keeps_cancelled stopped read
  | case3 reader after chunk read none ih => exact ih (next_event_keeps_cancelled stopped read)
  | case4 reader chunk after read delta rest =>
    exact hand_out_keeps_cancelled delta rest (next_event_keeps_cancelled stopped read)

/-- A token that is cancelled stays so while a stream is read. -/
theorem next_keeps_cancelled (stream : DeltaStream) (stopped : stream.reader.cancelled = true) :
    stream.next.2.reader.cancelled = true := by
  unfold DeltaStream.next
  split
  · exact stopped
  · split
    · exact hand_out_keeps_cancelled _ _ stopped
    · exact read_on_keeps_cancelled stopped

end Cancellation

/-- The stream after some calls. -/
def afterItems (stream : DeltaStream) : Nat → DeltaStream
  | 0 => stream
  | calls + 1 => (afterItems stream calls).next.2

/-- Each call takes one more item away from those that were ahead at first. -/
theorem after_items_ahead (stream : DeltaStream) (calls : Nat) (ready : Ready stream) :
    Ready (afterItems stream calls) ∧
      itemsAhead (afterItems stream calls) = (itemsAhead stream).drop calls := by
  induction calls with
  | zero => exact ⟨ready, rfl⟩
  | succ calls ih =>
    have hands := next_hands (afterItems stream calls) ih.1
    exact ⟨hands.ready, by rw [afterItems, hands.left, ih.2, List.tail_drop]⟩

/-- The items that calls hand out one by one are those of the whole stream, and after the last of
them every call reports the end. How the bytes were cut into chunks cannot be told from them. The
lines are the texts that the bytes encode, and an event is taken as the chunk that it shows, whether
it leaves out a content or says that there is none. -/
theorem deltas_read_are_items_of_stream (reads : List Read) (calls : Nat) :
    (afterItems (.ofReads reads false) calls).next.1 =
        ((items (findings (bytesOf reads) (closeOf reads)))[calls]?).getD .ended ∧
      (∀ others : List Read, bytesOf others = bytesOf reads → closeOf others = closeOf reads →
        (afterItems (.ofReads others false) calls).next.1 =
          (afterItems (.ofReads reads false) calls).next.1) ∧
      (∀ line text, lineText line = .ok text ↔ text.toUTF8.data.toList = line) ∧
      ∀ chunk value, ShowsChunk chunk value → decodeValue Chunk.decode value = .ok chunk := by
  have found : ∀ script : List Read, (afterItems (.ofReads script false) calls).next.1 =
      ((items (findings (bytesOf script) (closeOf script)))[calls]?).getD .ended := by
    intro script
    have start : itemsAhead (.ofReads script false) =
        items (findings (bytesOf script) (closeOf script)) := by
      simp [itemsAhead, DeltaStream.ofReads, DeltaStream.ofReader, ahead_ofReads, items]
    obtain ⟨ready, left⟩ := after_items_ahead (.ofReads script false) calls
      fun _ => ⟨settled_ofReads script false, rfl⟩
    rw [(next_hands _ ready).handed, left, start, List.headD_eq_head?_getD, List.head?_drop]
  refine ⟨found reads, fun others bytes close => by rw [found, found, bytes, close],
    line_text_ok_iff, fun chunk value shows => ?_⟩
  exact (Records.decodeValue_ok_iff ..).mpr (chunk_of_shown shows)

/-- A blank line and an event without choices bring nothing, a null content is the empty text, and
what stands behind the delta that gives a reason to finish is left out. -/
example :
    let bare := "data: \x7b\"choices\":[]\x7d\n\n"
    let closing := "data: \x7b\"choices\":[\x7b\"index\":0,\"delta\":\x7b\"content\":null\x7d," ++
      "\"finish_reason\":\"stop\"\x7d,\x7b\"index\":1\x7d]\x7d\nlate\n"
    items (findings (Text.Utf8.encode (bare ++ closing)) .clean) =
      [.delta ⟨0, none, "", some "stop", none⟩] := by
  decide +kernel

end ChatClient.DeltaReading
