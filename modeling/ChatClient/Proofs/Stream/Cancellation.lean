import ChatClient.Proofs.Stream.Drawing
import ChatClient.Proofs.Stream.Release

/-! Cancelling a stream of deltas. The owner may cancel between any two items, and the token may be
cancelled while a read is waited for; whatever is buffered, queued or unread then, no delta is
handed out any more. A stream that was still going hands out the cancellation as its last item, and
one that was over stays silent about it. -/
namespace ChatClient.StreamCancellation
open Json LineReading LineReader DeltaReading StreamRelease Drawing

section Readers
variable {reader : LineReader}

private theorem last_line_cancelled (reader : LineReader) :
    reader.lastLine.2.cancelled = reader.cancelled := by
  unfold LineReader.lastLine
  split <;> simp

/-- Reading on brings a cancellation only as the answer to the read that was waited for. -/
private theorem pull_stopped (reads : List Read) (going : reader.cancelled = false)
    (stopped : (reader.pull reads).2.cancelled = true) :
    (reader.pull reads).1 = .error .cancelled := by
  induction reads generalizing reader with
  | nil => simp [pull, last_line_cancelled, going] at stopped
  | cons read rest ih =>
    cases read with
    | failure error => simp [pull, going] at stopped
    | stall => rfl
    | bytes chunk =>
      simp only [pull] at stopped ⊢
      split at stopped
      · simp [frontLine, going] at stopped
      · exact ih going stopped

theorem next_line_stopped (going : reader.cancelled = false)
    (stopped : reader.nextLine.2.cancelled = true) : reader.nextLine.1 = .error .cancelled := by
  have read : reader.readLine.2.cancelled = true → reader.readLine.1 = .error .cancelled := by
    simp only [LineReader.readLine, going, Bool.false_eq_true, ↓reduceIte]
    intro stopped
    split at stopped
    · simp [frontLine, going] at stopped
    · by_cases exhausted : reader.exhausted = true
      · simp [exhausted, last_line_cancelled, going] at stopped
      · simp only [exhausted, Bool.false_eq_true, ↓reduceIte] at stopped ⊢
        exact pull_stopped _ going stopped
  unfold LineReader.nextLine at stopped ⊢
  cases same : reader.readLine with
  | mk answer after =>
    rw [same] at read stopped
    cases answer with
    | ok line => exact read stopped
    | error error => exact read (by simpa using stopped)

/-- A line that is handed out leaves the token as it was, so behind it a call for an event goes on
with a token that is not cancelled. -/
private theorem going_behind_line {after : LineReader} {line : Option String}
    (going : reader.cancelled = false) (read : reader.nextLine = (.ok line, after)) :
    after.cancelled = false := by
  rw [← Bool.not_eq_true]
  intro stopped
  have failed := next_line_stopped going (by rw [read]; exact stopped)
  rw [read] at failed
  cases failed

theorem next_event_stopped {α : Type} (decode : Decoder α) (going : reader.cancelled = false)
    (stopped : (reader.nextEvent decode).2.cancelled = true) :
    (reader.nextEvent decode).1 = .error .cancelled := by
  fun_induction LineReader.nextEvent decode reader with
  | case1 reader error after read =>
    have line := next_line_stopped going (by rw [read]; exact stopped)
    rw [read] at line
    cases line
    rfl
  | case2 reader after read => simp [going_behind_line going read] at stopped
  | case3 reader line after read skipped ih => exact ih (going_behind_line going read) stopped
  | case4 reader line after read marked => simp [going_behind_line going read] at stopped
  | case5 reader line after read => simp [going_behind_line going read] at stopped
  | case6 reader line after read => simp [going_behind_line going read] at stopped

private theorem going_behind_event {α : Type} {decode : Decoder α} {after : LineReader}
    {event : Option α} (going : reader.cancelled = false)
    (read : reader.nextEvent decode = (.ok event, after)) : after.cancelled = false := by
  rw [← Bool.not_eq_true]
  intro stopped
  have failed := next_event_stopped decode going (by rw [read]; exact stopped)
  rw [read] at failed
  cases failed

/-- A cancelled token is the first thing that a call for an event looks at. -/
theorem next_event_cancelled {α : Type} (decode : Decoder α) (stopped : reader.cancelled = true) :
    reader.nextEvent decode = (.error .cancelled, reader.release) := by
  simp only [next_event_eq, next_line_cancelled stopped]

end Readers

section Steps
variable {reader : LineReader} {stream : DeltaStream}

private theorem hand_out_stopped (delta : Delta) (rest : List Delta)
    (stopped : (DeltaStream.handOut reader delta rest).2.reader.cancelled = true) :
    (DeltaStream.handOut reader delta rest).1 = .failed (.call .cancelled) := by
  simp only [DeltaStream.handOut, LineReader.checkCancelled] at stopped ⊢
  cases token : reader.cancelled with
  | true => rfl
  | false =>
    cases final : delta.isFinal <;> simp [token, final, DeltaStream.finish] at stopped

private theorem read_on_stopped (going : reader.cancelled = false)
    (stopped : (DeltaStream.readOn reader).2.reader.cancelled = true) :
    (DeltaStream.readOn reader).1 = .failed (.call .cancelled) := by
  fun_induction DeltaStream.readOn reader with
  | case1 reader error after read =>
    have event := next_event_stopped Chunk.decode going (by rw [read]; exact stopped)
    rw [read] at event
    cases event
    rfl
  | case2 reader after read => simp [DeltaStream.finish, going_behind_event going read] at stopped
  | case3 reader after chunk read none ih => exact ih (going_behind_event going read) stopped
  | case4 reader chunk after read delta rest listed => exact hand_out_stopped delta rest stopped

/-- A token that is cancelled when an item is handed out leaves one item only. -/
theorem next_stopped (unfinished : stream.finished = false)
    (stopped : stream.next.2.reader.cancelled = true) :
    stream.next.1 = .failed (.call .cancelled) := by
  simp only [DeltaStream.next, unfinished, Bool.false_eq_true, ↓reduceIte] at stopped ⊢
  cases queued : stream.queued with
  | cons delta rest =>
    rw [queued] at stopped
    exact hand_out_stopped delta rest stopped
  | nil =>
    rw [queued] at stopped
    cases going : stream.reader.cancelled with
    | false => exact read_on_stopped going stopped
    | true =>
      rw [read_on_eq, next_event_cancelled Chunk.decode going]

/-- Where no failure is handed out the token has not been cancelled. -/
theorem going_behind_next (going : stream.reader.cancelled = false)
    (unfailed : ∀ error, stream.next.1 ≠ .failed error) :
    stream.next.2.reader.cancelled = false := by
  rw [← Bool.not_eq_true]
  intro stopped
  cases finished : stream.finished with
  | true =>
    rw [next_finished finished, going] at stopped
    contradiction
  | false => exact unfailed _ (next_stopped finished stopped)

end Steps

section Runs
variable {stream : DeltaStream}

/-- What has been drawn by the end of a run, and who has cancelled by then. -/
theorem run_draws (acts : List Act) (stream : DeltaStream) :
    ∃ used, Draws stream.reader (run acts stream).2.reader used ∧
      ((run acts stream).2.reader.cancelled = true ↔
        stream.reader.cancelled = true ∨ .cancel ∈ acts ∨ .stall ∈ used) := by
  induction acts generalizing stream with
  | nil => exact ⟨[], .refl _, by simp [run]⟩
  | cons act rest ih =>
    cases act with
    | cancel =>
      obtain ⟨used, draws, cancelled⟩ := ih stream.cancel
      have stopped : stream.cancel.reader.cancelled = true := rfl
      exact ⟨used, ⟨draws.unread, draws.pulled, draws.fair, draws.ended⟩,
        by rw [run, cancelled]; simp [stopped]⟩
    | next =>
      obtain ⟨used, draws, -⟩ := next_draws stream
      obtain ⟨more, later, cancelled⟩ := ih stream.next.2
      refine ⟨used ++ more, draws.toDraws.trans later, ?_⟩
      rw [run_next, cancelled, draws.cancelled]
      simp only [List.mem_cons, reduceCtorEq, false_or, List.mem_append]
      tauto

/-- A run is over if and only if some item of it closes. -/
theorem run_over_any (acts : List Act) (owned : Owned stream) :
    (run acts stream).2.finished =
      (stream.finished || (run acts stream).1.any fun one => closes one.item) := by
  induction acts generalizing stream with
  | nil => simp [run]
  | cons act rest ih =>
    cases act with
    | cancel => exact ih (cancel_owned owned)
    | next =>
      have leaves := next_leaves owned
      rw [run_next, ih leaves.owned, leaves.closed, List.any_cons]
      cases finished : stream.finished with
      | true => simp [next_finished finished, closes]
      | false => rfl

/-- Once the token is cancelled a stream that is still going hands out the cancellation, and then
ends only. -/
theorem run_cancelled (acts : List Act) (owned : Owned stream) (going : stream.finished = false)
    (stopped : stream.reader.cancelled = true) :
    (run acts stream).1.map Handed.item =
      (.failed (.call .cancelled) :: List.replicate (acts.count .next) .ended).take
        (acts.count .next) := by
  induction acts generalizing stream with
  | nil => rfl
  | cons act rest ih =>
    cases act with
    | cancel => exact (ih (cancel_owned owned) going rfl).trans (by simp)
    | next =>
      have leaves := next_leaves owned
      have item := next_stopped going (next_keeps_cancelled stream stopped)
      have closed : stream.next.2.finished = true := by rw [leaves.closed, item]; rfl
      rw [run_next, List.map_cons, (run_finished rest closed).1, item]
      simp [List.take_replicate]

/-- From the moment the token is cancelled no delta is handed out any more: not by the owner's
cancelling, and not when it happens while a read is waited for. If the stream was still going, the
next item is the cancellation and all later ones are ends; if it was over, all are ends. -/
theorem cancellation_ends_stream (reads : List Read) (cancelled : Bool) (before later : List Act) :
    let handed := (run before (.ofReads reads cancelled)).1
    let stream := (run before (.ofReads reads cancelled)).2
    let calls := later.count .next
    (stream.reader.cancelled = true ↔
        cancelled = true ∨ .cancel ∈ before ∨ .stall ∈ reads.take stream.reader.source.pulled) ∧
      (stream.reader.cancelled = true →
        (run later stream).1.map Handed.item =
          if handed.any (fun one => closes one.item) then .replicate calls .ended
          else (.failed (.call .cancelled) :: .replicate calls .ended).take calls) ∧
      (stream.reader.cancelled = false → stream.next.2.reader.cancelled = true →
        (∀ one ∈ handed, closes one.item = false) ∧
          stream.next.1 = .failed (.call .cancelled)) := by
  intro handed stream calls
  have start := owned_ofReads reads cancelled
  have owned : Owned stream := run_owned before start
  have closed : stream.finished = handed.any fun one => closes one.item :=
    run_over_any before start
  refine ⟨?_, ?_, ?_⟩
  · obtain ⟨used, draws, stopped⟩ := run_draws before (.ofReads reads cancelled)
    rw [draws.take_pulled]
    exact stopped
  · intro stopped
    rw [← closed]
    cases finished : stream.finished with
    | true => exact (run_finished later finished).1
    | false => exact run_cancelled later owned finished stopped
  · intro going stopped
    have unfinished : stream.finished = false := by
      rw [← Bool.not_eq_true]
      intro finished
      rw [next_finished finished, going] at stopped
      contradiction
    refine ⟨?_, next_stopped unfinished stopped⟩
    rw [unfinished] at closed
    simpa using closed.symm

end Runs

end ChatClient.StreamCancellation
