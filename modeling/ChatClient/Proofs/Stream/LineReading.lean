import ChatClient.Proofs.Stream.Lines
import ChatClient.Proofs.Text.Encoding

/-! Reading lines one at a time agrees with cutting the whole stream at once. What a reader's state
means is what is still to be found ahead of it; one call takes the first of that, and a run of calls
takes everything in order, whatever chunks the bytes came in. -/
namespace ChatClient.LineReading
open StreamLines LineReader

/-- What every reader keeps to between calls: once released it has nothing more to ask for, and once
it has nothing more to ask for all that was buffered has been handed out. -/
structure Settled (reader : LineReader) : Prop where
  released_exhausted : reader.released = true → reader.exhausted = true
  exhausted_drained : reader.exhausted = true → reader.buffer = []

/-- What is still to be found ahead of a reader, first in the bytes buffered and then in those that
it has not read. -/
def ahead (reader : LineReader) : List Line :=
  if reader.exhausted then []
  else findings (reader.buffer ++ bytesOf reader.source.unread) (closeOf reader.source.unread)

/-- What a call answers that takes the first of the lines ahead. -/
def answerTo : List Line → Except CallError (Option String)
  | [] => .ok none
  | line :: _ => line.map some

/-- Whether a call has handed something out. -/
def handsOut {α : Type} : Except CallError (Option α) → Bool
  | .ok (some _) => true
  | _ => false

/-- How one read of a line must come out when `lines` are ahead. A failure leaves the clearing up to
the caller, so nothing is said about what is ahead after it. -/
structure Takes (lines : List Line) (answer : Except CallError (Option String))
    (after : LineReader) : Prop where
  answered : answer = answerTo lines
  settled : Settled after
  left : ∀ line, answer = .ok line → ahead after = lines.tail
  held : ∀ line, answer = .ok line → after.released = !line.isSome
  going : ∀ line, answer = .ok line → after.cancelled = false

/-- How every call comes out, whatever it decodes to: the reader is settled again with `left` ahead
of it, and it has let go of the source unless something was handed out. -/
structure Served {α : Type} (answer : Except CallError (Option α)) (left : List Line)
    (after : LineReader) : Prop where
  settled : Settled after
  left : ahead after = left
  released : after.released = !handsOut answer
  going : ∀ result, answer = .ok result → after.cancelled = false

theorem settled_ofReads (reads : List Read) (cancelled : Bool) :
    Settled (LineReader.ofReads reads cancelled) :=
  ⟨by simp [LineReader.ofReads], by simp [LineReader.ofReads]⟩

theorem ahead_ofReads (reads : List Read) (cancelled : Bool) :
    ahead (LineReader.ofReads reads cancelled) = findings (bytesOf reads) (closeOf reads) := by
  simp [ahead, LineReader.ofReads, Source.ofReads]

theorem ahead_through (reader : LineReader) :
    through Line.isFailure (ahead reader) = ahead reader := by
  unfold ahead
  split
  · rfl
  · exact findings_through _ _

section Release
variable {reader : LineReader}

@[simp] theorem release_released : reader.release.released = true := by
  unfold LineReader.release
  split <;> simp_all

@[simp] theorem release_cancelled : reader.release.cancelled = reader.cancelled := by
  unfold LineReader.release
  split <;> rfl

theorem release_settled (settled : Settled reader) : Settled reader.release := by
  unfold LineReader.release
  split
  · exact settled
  · exact ⟨fun _ => rfl, fun _ => rfl⟩

theorem released_ahead (settled : Settled reader) (released : reader.released = true) :
    ahead reader = [] := by
  simp [ahead, settled.released_exhausted released]

/-- Nothing is ahead of a reader that has been released, whatever was buffered or unread. -/
theorem release_ahead (settled : Settled reader) : ahead reader.release = [] :=
  released_ahead (release_settled settled) release_released

end Release

section Steps
variable {reader : LineReader}

/-- At the end of its source a reader finds the tail, or nothing. -/
private theorem last_line_takes (reader : LineReader) (going : reader.cancelled = false)
    (exhausted : reader.exhausted = true) (held : reader.released = false)
    (noFeed : (10 : UInt8) ∉ reader.buffer) :
    Takes (findings reader.buffer .clean) reader.lastLine.1 reader.lastLine.2 := by
  rw [findings_uncut noFeed]
  unfold LineReader.lastLine
  cases content : reader.buffer with
  | nil =>
    simp only [List.isEmpty_nil, ↓reduceIte, ne_eq, not_true_eq_false, and_false]
    have drained : Settled reader := ⟨fun _ => exhausted, fun _ => content⟩
    exact ⟨rfl, release_settled drained, fun _ _ => release_ahead drained,
      fun line same => by cases same; simp, by simp [going]⟩
  | cons b rest =>
    simp only [List.isEmpty_cons, Bool.false_eq_true, ↓reduceIte, ne_eq, reduceCtorEq,
      not_false_eq_true, and_self]
    refine ⟨rfl, ⟨fun _ => exhausted, fun _ => rfl⟩, ?_, ?_, fun _ _ => going⟩
    · intro line _
      simp [ahead, exhausted]
    · intro line same
      cases text : lineText (b :: rest) with
      | error error => simp [text, Except.map] at same
      | ok text' =>
        simp only [text, Except.map, Except.ok.injEq] at same
        simp [← same, held]

/-- A complete line in front of the buffer is the first thing to be found. -/
private theorem front_line_takes (reader : LineReader) (line rest : List UInt8)
    (going : reader.cancelled = false) (reading : reader.exhausted = false)
    (held : reader.released = false)
    (noFeed : (10 : UInt8) ∉ line) (whole : reader.buffer = line ++ 10 :: rest) :
    Takes (findings (reader.buffer ++ bytesOf reader.source.unread) (closeOf reader.source.unread))
      (reader.frontLine line rest).1 (reader.frontLine line rest).2 := by
  rw [whole, List.append_assoc, List.cons_append, findings_cut noFeed]
  unfold LineReader.frontLine
  rw [drop_return_eq]
  have settled : Settled { reader with buffer := rest } :=
    ⟨by simp [held], by simp [reading]⟩
  cases text : lineText (unreturned line) with
  | error error =>
    rw [through_last rfl]
    exact ⟨rfl, settled, by simp [Except.map], by simp [Except.map], by simp [Except.map]⟩
  | ok text' =>
    rw [through_more rfl]
    refine ⟨rfl, settled, ?_, ?_, fun _ _ => going⟩
    · intro line' _
      simp [ahead, reading, findings_through]
    · intro line' same
      simp only [Except.map, Except.ok.injEq] at same
      simp [← same, held]

/-- Reads are asked for until a line is complete. The induction is on the reads still to come; the
bytes buffered and those unread stay the same stream while chunks move from one to the other. -/
private theorem pull_takes (reader : LineReader) (reads : List Read) (going : reader.cancelled = false)
    (reading : reader.exhausted = false) (held : reader.released = false)
    (noFeed : (10 : UInt8) ∉ reader.buffer) :
    Takes (findings (reader.buffer ++ bytesOf reads) (closeOf reads))
      (reader.pull reads).1 (reader.pull reads).2 := by
  induction reads generalizing reader with
  | nil =>
    simpa [pull, bytesOf, closeOf] using last_line_takes
      { reader with source := reader.source.reportEnd, exhausted := true } going rfl held noFeed
  | cons read rest ih =>
    cases read with
    | failure error =>
      rw [findings_uncut (by simpa [bytesOf] using noFeed)]
      exact ⟨rfl, ⟨by simp [held, pull], by simp [reading, pull]⟩, by simp [pull], by simp [pull],
        by simp [pull]⟩
    | stall =>
      rw [findings_uncut (by simpa [bytesOf] using noFeed)]
      exact ⟨rfl, ⟨by simp [held, pull], by simp [reading, pull]⟩, by simp [pull], by simp [pull],
        by simp [pull]⟩
    | bytes chunk =>
      simp only [bytesOf, closeOf, pull, ← List.append_assoc]
      split
      · rename_i line after split
        obtain ⟨whole, noFeed⟩ := split_line_some split
        exact front_line_takes
          { reader with
            source := reader.source.advance (.bytes chunk) rest
            buffer := reader.buffer ++ chunk } line after going reading held noFeed whole
      · rename_i split
        exact ih
          { reader with
            source := reader.source.advance (.bytes chunk) rest
            buffer := reader.buffer ++ chunk } going reading held (split_line_none split)

private theorem read_line_takes (settled : Settled reader) (going : reader.cancelled = false) :
    Takes (ahead reader) reader.readLine.1 reader.readLine.2 := by
  simp only [LineReader.readLine, going, Bool.false_eq_true, ↓reduceIte]
  cases exhausted : reader.exhausted with
  | true =>
    have drained := settled.exhausted_drained exhausted
    have split : splitLine? ([] : List UInt8) = none := rfl
    simp only [drained, split, ↓reduceIte, LineReader.lastLine, List.isEmpty_nil, ahead, exhausted]
    exact ⟨rfl, release_settled settled, fun _ _ => release_ahead settled,
      fun line same => by cases same; simp, by simp [going]⟩
  | false =>
    have held : reader.released = false := by
      cases released : reader.released with
      | false => rfl
      | true => simp [settled.released_exhausted released] at exhausted
    simp only [ahead, exhausted, Bool.false_eq_true, ↓reduceIte]
    split
    · rename_i line rest split
      obtain ⟨whole, noFeed⟩ := split_line_some split
      exact front_line_takes reader line rest going exhausted held noFeed whole
    · rename_i split
      exact pull_takes reader reader.source.unread going exhausted held (split_line_none split)

/-- One call takes the first thing ahead of a reader that has not been cancelled, and leaves the
rest. -/
theorem next_line_served (settled : Settled reader) (going : reader.cancelled = false) :
    reader.nextLine.1 = answerTo (ahead reader) ∧
      Served reader.nextLine.1 (ahead reader).tail reader.nextLine.2 := by
  have takes := read_line_takes settled going
  unfold LineReader.nextLine
  cases read : reader.readLine with
  | mk answer after =>
    rw [read] at takes
    cases answer with
    | ok line =>
      refine ⟨takes.answered, takes.settled, takes.left line rfl, ?_, takes.going⟩
      rw [takes.held line rfl]
      cases line <;> rfl
    | error error =>
      refine ⟨takes.answered, release_settled takes.settled, ?_, by simp [handsOut], by simp⟩
      rw [release_ahead takes.settled]
      -- A failure is the last thing ahead, so nothing is lost by letting go of the rest.
      cases found : ahead reader with
      | nil => rfl
      | cons line rest =>
        have failed : line.isFailure = true := by
          have answered := takes.answered
          rw [found] at answered
          cases line with
          | error _ => rfl
          | ok text => simp [answerTo, Except.map] at answered
        exact (tail_of_last ((ahead_through reader).trans found) failed).symm

section Told
variable {after : LineReader} {answer : Except CallError (Option String)}

theorem served_of_next_line (settled : Settled reader) (going : reader.cancelled = false)
    (read : reader.nextLine = (answer, after)) : Served answer (ahead reader).tail after := by
  have served := (next_line_served settled going).2
  rwa [read] at served

/-- What was ahead of a reader can be told from the answer of its call. -/
theorem ahead_of_line {text : String} (settled : Settled reader) (going : reader.cancelled = false)
    (read : reader.nextLine = (.ok (some text), after)) :
    ahead reader = .ok text :: ahead after := by
  obtain ⟨answered, served⟩ := next_line_served settled going
  rw [read] at answered served
  rw [served.left]
  rcases found : ahead reader with _ | ⟨error | text', rest⟩ <;>
    simp_all [answerTo, Except.map]

theorem ahead_of_end (settled : Settled reader) (going : reader.cancelled = false)
    (read : reader.nextLine = (.ok none, after)) : ahead reader = [] := by
  have answered := (next_line_served settled going).1
  rw [read] at answered
  rcases found : ahead reader with _ | ⟨error | text, rest⟩ <;>
    simp_all [answerTo, Except.map]

theorem ahead_of_failure {error : CallError} (settled : Settled reader)
    (going : reader.cancelled = false) (read : reader.nextLine = (.error error, after)) :
    ahead reader = [.error error] := by
  have answered := (next_line_served settled going).1
  rw [read] at answered
  rcases found : ahead reader with _ | ⟨error' | text, rest⟩
  · simp [found, answerTo] at answered
  · have last := tail_of_last ((ahead_through reader).trans found) rfl
    simp_all [answerTo, Except.map]
  · simp [found, answerTo, Except.map] at answered

end Told

end Steps

section Cancellation
variable {reader : LineReader}

@[simp] theorem release_unread : reader.release.source.unread = reader.source.unread := by
  unfold LineReader.release
  split <;> rfl

private theorem last_line_frame (reader : LineReader) :
    reader.lastLine.2.cancelled = reader.cancelled ∧
      reader.lastLine.2.source.unread = reader.source.unread := by
  unfold LineReader.lastLine
  split <;> simp

private theorem pull_frame (reader : LineReader) (reads : List Read)
    (unread : reader.source.unread = reads) :
    (reader.pull reads).2.source.unread <:+ reads ∧
      ((reader.pull reads).2.cancelled = true → reader.cancelled = true ∨ Read.stall ∈ reads) := by
  induction reads generalizing reader with
  | nil =>
    have frame := last_line_frame
      { reader with source := reader.source.reportEnd, exhausted := true }
    exact ⟨by rw [pull, frame.2]; simp [Source.reportEnd, unread],
      fun stopped => .inl (by simpa [pull, frame.1] using stopped)⟩
  | cons read rest ih =>
    cases read with
    | failure error =>
      exact ⟨by simp [pull, Source.advance], fun stopped => .inl (by simpa [pull] using stopped)⟩
    | stall => exact ⟨by simp [pull, Source.advance], fun _ => .inr (by simp)⟩
    | bytes chunk =>
      simp only [pull]
      split
      · exact ⟨by simp [LineReader.frontLine, Source.advance],
          fun stopped => .inl (by simpa [LineReader.frontLine] using stopped)⟩
      · have frame := ih
          { reader with
            source := reader.source.advance (.bytes chunk) rest
            buffer := reader.buffer ++ chunk } rfl
        refine ⟨frame.1.trans (List.suffix_cons _ _), fun stopped => ?_⟩
        exact (frame.2 stopped).imp_right (List.mem_cons_of_mem _)

/-- Reading a line never brings a read back, and cancels nothing by itself: a token that is
cancelled afterwards was cancelled before, or while a read was being waited for. -/
theorem next_line_frame (reader : LineReader) :
    reader.nextLine.2.source.unread <:+ reader.source.unread ∧
      (reader.nextLine.2.cancelled = true →
        reader.cancelled = true ∨ Read.stall ∈ reader.source.unread) := by
  have frame : reader.readLine.2.source.unread <:+ reader.source.unread ∧
      (reader.readLine.2.cancelled = true →
        reader.cancelled = true ∨ Read.stall ∈ reader.source.unread) := by
    unfold LineReader.readLine
    split
    · rename_i stopped
      exact ⟨by simp, fun _ => .inl stopped⟩
    · split
      · exact ⟨by simp [LineReader.frontLine], fun stopped => .inl stopped⟩
      · split
        · have frame := last_line_frame reader
          exact ⟨by simp [frame.2], fun stopped => .inl (by simpa [frame.1] using stopped)⟩
        · exact pull_frame reader reader.source.unread rfl
  unfold LineReader.nextLine
  cases read : reader.readLine with
  | mk answer after =>
    rw [read] at frame
    cases answer <;> simpa using frame

/-- A token once cancelled stays cancelled. -/
theorem next_line_keeps_cancelled {after : LineReader} {answer : Except CallError (Option String)}
    (stopped : reader.cancelled = true) (read : reader.nextLine = (answer, after)) :
    after.cancelled = true := by
  simp only [LineReader.nextLine, LineReader.readLine, stopped, ↓reduceIte, Prod.mk.injEq] at read
  rw [← read.2]
  simp [stopped]

end Cancellation

/-- The script of a stream that comes in these chunks and then ends, or breaks with a failure. -/
def scriptOf (chunks : List (List UInt8)) (broken : Option CallError) : List Read :=
  chunks.map .bytes ++ (broken.map .failure).toList

/-- The way such a script ends. -/
def closeBy : Option CallError → Close
  | none => .clean
  | some error => .failing error

/-- The reader after some calls. -/
def afterLines (reader : LineReader) : Nat → LineReader
  | 0 => reader
  | calls + 1 => (afterLines reader calls).nextLine.2

section Runs
variable {reader : LineReader}

theorem bytes_scriptOf (chunks : List (List UInt8)) (broken : Option CallError) :
    bytesOf (scriptOf chunks broken) = chunks.flatten := by
  induction chunks with
  | nil => cases broken <;> rfl
  | cons chunk rest ih =>
    simp only [scriptOf, List.map_cons, List.cons_append, bytesOf, List.flatten_cons] at ih ⊢
    rw [ih]

theorem close_scriptOf (chunks : List (List UInt8)) (broken : Option CallError) :
    closeOf (scriptOf chunks broken) = closeBy broken := by
  induction chunks with
  | nil => cases broken <;> rfl
  | cons chunk rest ih => simpa [scriptOf, closeOf] using ih

theorem stall_not_mem_scriptOf (chunks : List (List UInt8)) (broken : Option CallError) :
    Read.stall ∉ scriptOf chunks broken := by
  cases broken <;> simp [scriptOf]

/-- Each call takes one more thing away from what was ahead at first. -/
theorem after_lines_ahead (reader : LineReader) (calls : Nat) (settled : Settled reader)
    (going : reader.cancelled = false) (unstalled : Read.stall ∉ reader.source.unread) :
    Settled (afterLines reader calls) ∧ (afterLines reader calls).cancelled = false ∧
      Read.stall ∉ (afterLines reader calls).source.unread ∧
      ahead (afterLines reader calls) = (ahead reader).drop calls := by
  induction calls with
  | zero => exact ⟨settled, going, unstalled, rfl⟩
  | succ calls ih =>
    obtain ⟨settledThen, goingThen, unstalledThen, aheadThen⟩ := ih
    have served := (next_line_served settledThen goingThen).2
    have frame := next_line_frame (afterLines reader calls)
    refine ⟨served.settled, ?_, fun member => unstalledThen (frame.1.subset member), ?_⟩
    · rw [← Bool.not_eq_true]
      intro stopped
      rcases frame.2 stopped with before | waited
      · simp [goingThen] at before
      · exact unstalledThen waited
    · rw [afterLines, served.left, aheadThen, List.tail_drop]

/-- A line is a text if it is the bytes of one, and a failure otherwise. -/
theorem line_text_ok_iff (line : List UInt8) (text : String) :
    lineText line = .ok text ↔ text.toUTF8.data.toList = line := by
  rw [← TextEncoding.encode_eq_stored, ← TextEncoding.decode_ok_iff, lineText]
  cases Text.Utf8.decode line <;> simp

/-- The answers of repeated calls are the findings of the whole stream, one a call and in order,
and nothing for ever after. How the bytes were cut into chunks cannot be told from them, and a
line comes out as the text that has its bytes. -/
theorem lines_read_are_lines_of_stream (chunks : List (List UInt8)) (broken : Option CallError)
    (calls : Nat) :
    (afterLines (.ofReads (scriptOf chunks broken) false) calls).nextLine.1 =
        (match (findings chunks.flatten (closeBy broken))[calls]? with
        | some line => line.map some
        | none => .ok none) ∧
      (∀ others : List (List UInt8), others.flatten = chunks.flatten →
        (afterLines (.ofReads (scriptOf others broken) false) calls).nextLine.1 =
          (afterLines (.ofReads (scriptOf chunks broken) false) calls).nextLine.1) ∧
      ∀ line text, lineText line = .ok text ↔ text.toUTF8.data.toList = line := by
  have found : ∀ cut : List (List UInt8),
      (afterLines (.ofReads (scriptOf cut broken) false) calls).nextLine.1 =
        answerTo ((findings cut.flatten (closeBy broken)).drop calls) := by
    intro cut
    obtain ⟨settled, going, -, left⟩ := after_lines_ahead (.ofReads (scriptOf cut broken) false)
      calls (settled_ofReads _ _) rfl (stall_not_mem_scriptOf cut broken)
    rw [(next_line_served settled going).1, left, ahead_ofReads, bytes_scriptOf, close_scriptOf]
  refine ⟨?_, fun others same => by rw [found, found, same], line_text_ok_iff⟩
  rw [found, ← List.head?_drop]
  cases (findings chunks.flatten (closeBy broken)).drop calls <;> rfl

end Runs

end ChatClient.LineReading
