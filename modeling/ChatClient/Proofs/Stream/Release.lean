import ChatClient.Proofs.Stream.DeltaReading

/-! When a stream of deltas lets go of its source. Its owner asks for items and may cancel in
between; at every moment of such a run the source has been dropped exactly if the item handed out
last was one behind which nothing follows. One invariant of the reader carries this through all
ways out: a call has released the source unless it hands something out. -/
namespace ChatClient.StreamRelease
open Json StreamLines LineReading LineReader DeltaReading

/-- What the owner of a stream does with it. -/
inductive Act where
  | next
  | cancel
  deriving DecidableEq

/-- An item, and the stream as it was when the item was handed out. -/
structure Handed where
  item : Item
  stream : DeltaStream

/-- What is handed out while the owner acts, and the stream as it is in the end. -/
def run : List Act → DeltaStream → List Handed × DeltaStream
  | [], stream => ([], stream)
  | .cancel :: rest, stream => run rest stream.cancel
  | .next :: rest, stream =>
    let (item, after) := stream.next
    let (later, last) := run rest after
    (⟨item, after⟩ :: later, last)

/-- Whether the last of the items handed out, if there is one, closes the stream. -/
def lastCloses (handed : List Handed) : Bool :=
  handed.getLast?.any fun last => closes last.item

/-- What every reader keeps to, whether it has been cancelled or not: the source has been dropped
if and only if the reader counts as released. -/
structure Held (reader : LineReader) : Prop where
  settled : Settled reader
  dropped : reader.source.dropped = reader.released

/-- How every call comes out, cancelled or not: it has let go of the source unless it hands
something out. -/
structure Answered {α : Type} (answer : Except CallError (Option α)) (after : LineReader) :
    Prop where
  held : Held after
  released : after.released = !handsOut answer

section Readers
variable {reader : LineReader}

theorem held_ofReads (reads : List Read) (cancelled : Bool) :
    Held (.ofReads reads cancelled) :=
  ⟨settled_ofReads reads cancelled, rfl⟩

theorem release_dropped (dropped : reader.source.dropped = reader.released) :
    reader.release.source.dropped = reader.release.released := by
  unfold LineReader.release
  split
  · exact dropped
  · rfl

theorem release_held (held : Held reader) : Held reader.release :=
  ⟨release_settled held.settled, release_dropped held.dropped⟩

theorem cancel_held (held : Held reader) : Held reader.cancel :=
  ⟨⟨held.settled.released_exhausted, held.settled.exhausted_drained⟩, held.dropped⟩

private theorem last_line_dropped (dropped : reader.source.dropped = reader.released) :
    reader.lastLine.2.source.dropped = reader.lastLine.2.released := by
  unfold LineReader.lastLine
  split
  · exact release_dropped dropped
  · exact dropped

private theorem pull_dropped (reads : List Read)
    (dropped : reader.source.dropped = reader.released) :
    (reader.pull reads).2.source.dropped = (reader.pull reads).2.released := by
  induction reads generalizing reader with
  | nil => exact last_line_dropped dropped
  | cons read rest ih =>
    cases read with
    | failure error => exact dropped
    | stall => exact dropped
    | bytes chunk =>
      simp only [pull]
      split
      · exact dropped
      · exact ih dropped

private theorem read_line_dropped (dropped : reader.source.dropped = reader.released) :
    reader.readLine.2.source.dropped = reader.readLine.2.released := by
  unfold LineReader.readLine
  split
  · exact release_dropped dropped
  · split
    · exact dropped
    · split
      · exact last_line_dropped dropped
      · exact pull_dropped _ dropped

theorem next_line_dropped (dropped : reader.source.dropped = reader.released) :
    reader.nextLine.2.source.dropped = reader.nextLine.2.released := by
  have read := read_line_dropped dropped
  unfold LineReader.nextLine
  split <;> rename_i same <;> rw [same] at read
  · exact release_dropped read
  · exact read

/-- A reader whose token is cancelled releases its source and does nothing else. -/
theorem next_line_cancelled (stopped : reader.cancelled = true) :
    reader.nextLine = (.error .cancelled, reader.release) := by
  have twice : reader.release.release = reader.release := by
    rw [LineReader.release, if_pos release_released]
  simp [LineReader.nextLine, LineReader.readLine, stopped, twice]

theorem next_line_answered (held : Held reader) :
    Answered reader.nextLine.1 reader.nextLine.2 := by
  cases stopped : reader.cancelled with
  | true =>
    rw [next_line_cancelled stopped]
    exact ⟨release_held held, by simp [handsOut]⟩
  | false =>
    have served := (next_line_served held.settled stopped).2
    exact ⟨⟨served.settled, next_line_dropped held.dropped⟩, served.released⟩

/-- The lines that a call for an event passes over are handed out to it, so the source is kept
until it comes to one that it acts on. -/
theorem next_event_answered {α : Type} (decode : Decoder α) (held : Held reader) :
    Answered (reader.nextEvent decode).1 (reader.nextEvent decode).2 := by
  fun_induction LineReader.nextEvent decode reader with
  | case1 reader error after read =>
    have answered := next_line_answered held
    rw [read] at answered
    exact ⟨answered.held, answered.released⟩
  | case2 reader after read =>
    have answered := next_line_answered held
    rw [read] at answered
    exact ⟨answered.held, answered.released⟩
  | case3 reader line after read skipped ih =>
    have answered := next_line_answered held
    rw [read] at answered
    exact ih answered.held
  | case4 reader line after read marked =>
    have answered := next_line_answered held
    rw [read] at answered
    exact ⟨release_held answered.held, by simp [handsOut]⟩
  | case5 reader line after read payload carried unmarked event decoded =>
    have answered := next_line_answered held
    rw [read] at answered
    exact ⟨answered.held, answered.released⟩
  | case6 reader line after read payload carried unmarked error decoded =>
    have answered := next_line_answered held
    rw [read] at answered
    exact ⟨release_held answered.held, by simp [handsOut]⟩

end Readers

/-- What a stream keeps to: it is over if and only if its reader has let go of the source. -/
structure Owned (stream : DeltaStream) : Prop where
  held : Held stream.reader
  closed : stream.finished = stream.reader.released

/-- How one item is handed out: the stream is over with it if nothing can follow it. -/
structure Leaves (item : Item) (after : DeltaStream) : Prop where
  owned : Owned after
  closed : after.finished = closes item

section Steps
variable {reader : LineReader} {stream : DeltaStream}

theorem owned_ofReads (reads : List Read) (cancelled : Bool) :
    Owned (.ofReads reads cancelled) :=
  ⟨held_ofReads reads cancelled, rfl⟩

theorem cancel_owned (owned : Owned stream) : Owned stream.cancel :=
  ⟨cancel_held owned.held, owned.closed⟩

private theorem finish_owned (held : Held reader) (released : reader.released = true) :
    Owned (.finish reader) :=
  ⟨held, released.symm⟩

private theorem hand_out_leaves (delta : Delta) (rest : List Delta) (held : Held reader)
    (unreleased : reader.released = false) :
    Leaves (DeltaStream.handOut reader delta rest).1 (DeltaStream.handOut reader delta rest).2 := by
  have finished := finish_owned (release_held held) release_released
  simp only [DeltaStream.handOut, LineReader.checkCancelled]
  cases reader.cancelled with
  | true => exact ⟨finished, rfl⟩
  | false =>
    cases final : delta.isFinal with
    | true => exact ⟨finished, ((closes_delta delta).trans final).symm⟩
    | false => exact ⟨⟨held, unreleased.symm⟩, ((closes_delta delta).trans final).symm⟩

private theorem read_on_leaves (held : Held reader) :
    Leaves (DeltaStream.readOn reader).1 (DeltaStream.readOn reader).2 := by
  fun_induction DeltaStream.readOn reader with
  | case1 reader error after read =>
    have answered := next_event_answered Chunk.decode held
    rw [read] at answered
    exact ⟨finish_owned answered.held answered.released, rfl⟩
  | case2 reader after read =>
    have answered := next_event_answered Chunk.decode held
    rw [read] at answered
    exact ⟨finish_owned answered.held answered.released, rfl⟩
  | case3 reader after chunk read none ih =>
    have answered := next_event_answered Chunk.decode held
    rw [read] at answered
    exact ih answered.held
  | case4 reader chunk after read delta rest listed =>
    have answered := next_event_answered Chunk.decode held
    rw [read] at answered
    exact hand_out_leaves delta rest answered.held answered.released

theorem next_finished (finished : stream.finished = true) : stream.next = (.ended, stream) := by
  simp [DeltaStream.next, finished]

/-- Whatever way an item takes out of the stream, the source goes with the last one and with no
other. -/
theorem next_leaves (owned : Owned stream) : Leaves stream.next.1 stream.next.2 := by
  cases finished : stream.finished with
  | true =>
    rw [next_finished finished]
    exact ⟨owned, finished⟩
  | false =>
    have unreleased : stream.reader.released = false := owned.closed.symm.trans finished
    simp only [DeltaStream.next, finished, Bool.false_eq_true, ↓reduceIte]
    cases stream.queued with
    | nil => exact read_on_leaves owned.held
    | cons delta rest => exact hand_out_leaves delta rest owned.held unreleased

end Steps

section Runs
variable {stream : DeltaStream}

theorem run_next (rest : List Act) (stream : DeltaStream) :
    run (.next :: rest) stream =
      (⟨stream.next.1, stream.next.2⟩ :: (run rest stream.next.2).1, (run rest stream.next.2).2) :=
  rfl

theorem run_owned (acts : List Act) (owned : Owned stream) : Owned (run acts stream).2 := by
  induction acts generalizing stream with
  | nil => exact owned
  | cons act rest ih =>
    cases act with
    | cancel => exact ih (cancel_owned owned)
    | next => exact ih (next_leaves owned).owned

/-- Each item of a run leaves the stream as one that has just handed it out. -/
theorem run_leaves (acts : List Act) (owned : Owned stream) :
    ∀ one ∈ (run acts stream).1, Leaves one.item one.stream := by
  induction acts generalizing stream with
  | nil => simp [run]
  | cons act rest ih =>
    cases act with
    | cancel => exact ih (cancel_owned owned)
    | next =>
      have leaves := next_leaves owned
      rw [run_next]
      intro one member
      rcases List.mem_cons.mp member with rfl | later
      · exact leaves
      · exact ih leaves.owned one later

/-- A stream that is over stays as it is: the owner gets ends only, and the source is left alone. -/
theorem run_finished (acts : List Act) (finished : stream.finished = true) :
    (run acts stream).1.map Handed.item = .replicate (acts.count .next) .ended ∧
      (run acts stream).2.finished = true ∧
      (run acts stream).2.reader.source = stream.reader.source := by
  induction acts generalizing stream with
  | nil => exact ⟨rfl, finished, rfl⟩
  | cons act rest ih =>
    cases act with
    | cancel =>
      obtain ⟨items, closed, source⟩ := @ih stream.cancel finished
      exact ⟨items.trans (by simp), closed, source⟩
    | next =>
      obtain ⟨items, closed, source⟩ := ih finished
      rw [run_next, next_finished finished]
      exact ⟨by simp [items, List.replicate_succ], closed, source⟩

/-- A run is over if and only if the last item closes, once one has been handed out. -/
theorem run_over (acts : List Act) (owned : Owned stream) :
    (run acts stream).2.finished =
      ((run acts stream).1.getLast?.map fun last => closes last.item).getD stream.finished := by
  induction acts generalizing stream with
  | nil => rfl
  | cons act rest ih =>
    cases act with
    | cancel => exact ih (cancel_owned owned)
    | next =>
      have leaves := next_leaves owned
      rw [run_next, ih leaves.owned, leaves.closed, List.getLast?_cons]
      cases (run rest stream.next.2).1.getLast? <;> rfl

/-- At every moment of a run the source has been dropped if and only if the item handed out last is
a final delta, a failure or the end; an item that is none of these is handed out with the source
still held. Once the source has been dropped, nothing that the owner does reaches it again. -/
theorem source_dropped_iff_last_item_closes (reads : List Read) (cancelled : Bool)
    (acts : List Act) :
    let handed := (run acts (.ofReads reads cancelled)).1
    let stream := (run acts (.ofReads reads cancelled)).2
    (∀ one ∈ handed, one.stream.reader.source.dropped = closes one.item) ∧
      stream.reader.source.dropped = lastCloses handed ∧
      (stream.reader.source.dropped = true →
        ∀ later, (run later stream).2.reader.source = stream.reader.source) := by
  intro handed stream
  have start := owned_ofReads reads cancelled
  have owned : Owned stream := run_owned acts start
  have dropped : stream.finished = stream.reader.source.dropped :=
    owned.closed.trans owned.held.dropped.symm
  refine ⟨?_, dropped.symm.trans ?_, ?_⟩
  · intro one member
    have leaves := run_leaves acts start one member
    rw [leaves.owned.held.dropped, ← leaves.owned.closed, leaves.closed]
  · rw [run_over acts start, lastCloses]
    cases handed.getLast? <;> rfl
  · intro gone later
    exact (run_finished later (dropped.trans gone)).2.2

end Runs

end ChatClient.StreamRelease
