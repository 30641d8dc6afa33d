import ChatClient.Proofs.Stream.LineReading
import ChatClient.Stream.DeltaStream

/-! What reading takes from a source. Every step draws some reads from the front of those that are
still to come and leaves the others, and it would have done the same whatever stood behind the reads
that it drew. A token that is cancelled behind a step was cancelled before, or one of the reads drawn
was waited for in vain. -/
namespace ChatClient.Drawing
open Json LineReading LineReader

/-- The source has been asked for more reads than it answered: it has reported its end. -/
def SawEnd (source : Source) : Prop :=
  source.pulled < source.polls

/-- What a source keeps to: every answer was asked for, and the end comes behind the last read. -/
structure Fair (source : Source) : Prop where
  asked : source.pulled ≤ source.polls
  last : SawEnd source → source.unread = []

/-- One step, or several, from `reader` to `after` that draw `used` from the source. -/
structure Draws (reader after : LineReader) (used : List Read) : Prop where
  unread : reader.source.unread = used ++ after.source.unread
  pulled : after.source.pulled = reader.source.pulled + used.length
  fair : Fair reader.source → Fair after.source
  ended : SawEnd reader.source → SawEnd after.source

/-- Steps between which the owner does not touch the token. -/
structure DrawsAlone (reader after : LineReader) (used : List Read) : Prop extends
    Draws reader after used where
  cancelled : after.cancelled = true ↔ reader.cancelled = true ∨ Read.stall ∈ used

/-- The reader as it would be with other reads to come. -/
def facing (reader : LineReader) (reads : List Read) : LineReader :=
  { reader with source := { reader.source with unread := reads } }

/-- A call that draws some reads and looks no further: it would come out the same whatever stood
behind those. Only if it has come to the end of the source must there be nothing behind them. -/
def Frugal {α : Type*} (call : LineReader → α × LineReader) (reader : LineReader) : Prop :=
  ∃ used, DrawsAlone reader (call reader).2 used ∧
    (Fair reader.source → ∀ rest, (SawEnd (call reader).2.source → rest = []) →
      call (facing reader (used ++ rest)) = ((call reader).1, facing (call reader).2 rest))

theorem fair_ofReads (reads : List Read) : Fair (.ofReads reads) :=
  ⟨Nat.le_refl 0, fun ended => absurd ended (Nat.lt_irrefl 0)⟩

section Composition
variable {reader between after : LineReader} {used more rest : List Read}

theorem Draws.refl (reader : LineReader) : Draws reader reader [] :=
  ⟨rfl, rfl, id, id⟩

theorem Draws.trans (first : Draws reader between used) (second : Draws between after more) :
    Draws reader after (used ++ more) where
  unread := by rw [first.unread, second.unread, List.append_assoc]
  pulled := by rw [second.pulled, first.pulled, List.length_append, Nat.add_assoc]
  fair := second.fair ∘ first.fair
  ended := second.ended ∘ first.ended

/-- Behind the end of a source nothing is drawn, so what must be empty behind the last of two steps
must be so behind the first. -/
theorem Draws.nothing_behind_end (second : Draws between after more) (fair : Fair between.source)
    (closed : SawEnd after.source → rest = []) (ended : SawEnd between.source) :
    more ++ rest = [] := by
  have none := second.unread.symm.trans (fair.last ended)
  rw [closed (second.ended ended), (List.append_eq_nil_iff.mp none).1, List.append_nil]

/-- From the start of a script everything pulled by now has been drawn. -/
theorem Draws.take_pulled {reads : List Read} {cancelled : Bool}
    (draws : Draws (.ofReads reads cancelled) after used) :
    reads.take after.source.pulled = used := by
  have unread : reads = used ++ after.source.unread := draws.unread
  have pulled : after.source.pulled = used.length := draws.pulled.trans (Nat.zero_add _)
  rw [pulled, unread, List.take_left]

theorem DrawsAlone.refl (reader : LineReader) : DrawsAlone reader reader [] :=
  ⟨.refl reader, by simp⟩

theorem DrawsAlone.trans (first : DrawsAlone reader between used)
    (second : DrawsAlone between after more) : DrawsAlone reader after (used ++ more) :=
  ⟨first.toDraws.trans second.toDraws, by
    rw [second.cancelled, first.cancelled, List.mem_append, or_assoc]⟩

/-- What such a call comes to, once it is known how it came out. -/
theorem Frugal.of_run {α : Type*} {call : LineReader → α × LineReader} {answer : α}
    (frugal : Frugal call reader) (ran : call reader = (answer, after)) :
    ∃ used, DrawsAlone reader after used ∧
      (Fair reader.source → ∀ rest, (SawEnd after.source → rest = []) →
        call (facing reader (used ++ rest)) = (answer, facing after rest)) := by
  unfold Frugal at frugal
  rwa [ran] at frugal

end Composition

section Release
variable {reader : LineReader}

theorem release_draws (reader : LineReader) : DrawsAlone reader reader.release [] := by
  unfold LineReader.release
  split
  · exact .refl reader
  · exact ⟨⟨rfl, rfl, fun fair => ⟨fair.asked, fair.last⟩, id⟩, by simp⟩

theorem release_facing (reader : LineReader) (reads : List Read) :
    (facing reader reads).release = facing reader.release reads := by
  unfold LineReader.release facing
  split <;> rfl

end Release

section Lines
variable {reader : LineReader}

private theorem last_line_draws (reader : LineReader) : DrawsAlone reader reader.lastLine.2 [] := by
  unfold LineReader.lastLine
  split
  · exact release_draws reader
  · exact ⟨⟨rfl, rfl, fun fair => ⟨fair.asked, fair.last⟩, id⟩, by simp⟩

private theorem last_line_facing (reader : LineReader) (reads : List Read) :
    (facing reader reads).lastLine = (reader.lastLine.1, facing reader.lastLine.2 reads) := by
  have same : (facing reader reads).buffer = reader.buffer := rfl
  unfold LineReader.lastLine
  rw [same]
  split
  · rw [release_facing]
  · rfl

private theorem advance_draws (reader : LineReader) (read : Read) (rest : List Read)
    (unread : reader.source.unread = read :: rest) (buffer : List UInt8) (cancelled : Bool)
    (stopped : cancelled = true ↔ reader.cancelled = true ∨ .stall = read) :
    DrawsAlone reader
      { reader with
        source := reader.source.advance read rest, buffer := buffer, cancelled := cancelled }
      [read] where
  unread := unread
  pulled := rfl
  cancelled := by rw [List.mem_singleton, stopped]
  fair fair := by
    refine ⟨Nat.succ_le_succ fair.asked, fun ended => ?_⟩
    have before := fair.last (Nat.lt_of_succ_lt_succ ended)
    simp [unread] at before
  ended := Nat.succ_lt_succ

/-- Reading on draws reads until one of them brings the end of a line, fails or is waited for in
vain. The induction is on the reads still to come; only where they give out is there no telling
them from others that go on. -/
private theorem pull_draws (reader : LineReader) (reads : List Read)
    (unread : reader.source.unread = reads) :
    ∃ used, DrawsAlone reader (reader.pull reads).2 used ∧
      (Fair reader.source → ∀ rest, (SawEnd (reader.pull reads).2.source → rest = []) →
        (facing reader (used ++ rest)).pull (used ++ rest) =
          ((reader.pull reads).1, facing (reader.pull reads).2 rest)) := by
  induction reads generalizing reader with
  | nil =>
    let ended : LineReader := { reader with source := reader.source.reportEnd, exhausted := true }
    have draws : DrawsAlone reader ended [] :=
      ⟨⟨rfl, rfl, fun fair => ⟨Nat.le_succ_of_le fair.asked, fun _ => unread⟩,
        Nat.lt_succ_of_lt⟩, by simp [ended]⟩
    refine ⟨[], draws.trans (last_line_draws ended), fun fair rest closed => ?_⟩
    have reported : SawEnd ended.source := Nat.lt_succ_of_le fair.asked
    cases closed ((last_line_draws ended).ended reported)
    exact last_line_facing ended []
  | cons read rest ih =>
    cases read with
    | failure error =>
      exact ⟨[.failure error], advance_draws reader _ rest unread _ _ (by simp), fun _ _ _ => rfl⟩
    | stall =>
      exact ⟨[.stall], advance_draws reader _ rest unread _ _ (by simp), fun _ _ _ => rfl⟩
    | bytes chunk =>
      let filled : LineReader :=
        { reader with
          source := reader.source.advance (.bytes chunk) rest, buffer := reader.buffer ++ chunk }
      have draws : DrawsAlone reader filled [.bytes chunk] :=
        advance_draws reader _ rest unread _ _ (by simp)
      cases split : splitLine? (reader.buffer ++ chunk) with
      | some parts =>
        have pulled : reader.pull (.bytes chunk :: rest) = filled.frontLine parts.1 parts.2 := by
          simp only [pull, split]
          rfl
        rw [pulled]
        refine ⟨[.bytes chunk], ⟨⟨draws.unread, draws.pulled, ?_, draws.ended⟩, draws.cancelled⟩, ?_⟩
        · exact fun fair => ⟨(draws.fair fair).asked, (draws.fair fair).last⟩
        · intro _ rest _
          simp only [List.singleton_append, pull, facing, split]
          rfl
      | none =>
        have pulled : reader.pull (.bytes chunk :: rest) = filled.pull rest := by
          simp only [pull, split]
          rfl
        obtain ⟨used, more, same⟩ := ih filled rfl
        rw [pulled]
        refine ⟨.bytes chunk :: used, draws.trans more, fun fair others closed => ?_⟩
        rw [← same (draws.fair fair) others closed, List.cons_append]
        simp only [pull, facing, split]
        rfl

private theorem read_line_frugal (reader : LineReader) : Frugal LineReader.readLine reader := by
  unfold Frugal
  by_cases stopped : reader.cancelled = true
  · have read : reader.readLine = (.error .cancelled, reader.release) := by
      simp [LineReader.readLine, stopped]
    rw [read]
    refine ⟨[], release_draws reader, fun _ rest _ => ?_⟩
    have same : (facing reader rest).cancelled = true := stopped
    simp [LineReader.readLine, same, release_facing]
  cases split : splitLine? reader.buffer with
  | some parts =>
    have read : reader.readLine = reader.frontLine parts.1 parts.2 := by
      simp [LineReader.readLine, stopped, split]
    rw [read]
    refine ⟨[], ⟨⟨rfl, rfl, fun fair => ⟨fair.asked, fair.last⟩, id⟩, by simp [frontLine]⟩, ?_⟩
    intro _ rest _
    simp [LineReader.readLine, facing, stopped, split, frontLine]
  | none =>
    by_cases exhausted : reader.exhausted = true
    · have read : reader.readLine = reader.lastLine := by
        simp [LineReader.readLine, stopped, split, exhausted]
      rw [read]
      refine ⟨[], last_line_draws reader, fun _ rest _ => ?_⟩
      rw [List.nil_append, ← last_line_facing]
      simp [LineReader.readLine, facing, stopped, split, exhausted]
    · have read : ∀ reads,
          (facing reader reads).readLine = (facing reader reads).pull reads := by
        intro reads
        simp [LineReader.readLine, facing, stopped, split, exhausted]
      have here : reader.readLine = reader.pull reader.source.unread := read reader.source.unread
      obtain ⟨used, draws, same⟩ := pull_draws reader reader.source.unread rfl
      rw [here]
      exact ⟨used, draws, fun fair rest closed => (read _).trans (same fair rest closed)⟩

/-- A line is read from the reads that it needs, and would be read from them whatever came next. -/
theorem next_line_frugal (reader : LineReader) : Frugal LineReader.nextLine reader := by
  obtain ⟨used, draws, same⟩ := read_line_frugal reader
  unfold Frugal
  cases read : reader.readLine with
  | mk answer after =>
    rw [read] at draws same
    cases answer with
    | ok line =>
      have next : reader.nextLine = (.ok line, after) := by simp [nextLine, read]
      rw [next]
      refine ⟨used, draws, fun fair rest closed => ?_⟩
      simp [nextLine, same fair rest closed]
    | error error =>
      have next : reader.nextLine = (.error error, after.release) := by simp [nextLine, read]
      have released := release_draws after
      rw [next]
      refine ⟨used, by simpa using draws.trans released, fun fair rest closed => ?_⟩
      have before : SawEnd after.source → rest = [] := fun ended => closed (released.ended ended)
      simp [nextLine, same fair rest before, release_facing]

end Lines

section Events
variable {α : Type} {decode : Decoder α} {reader : LineReader}

/-- What a call for an event does with the answer of a call for a line. -/
theorem next_event_eq (decode : Decoder α) (reader : LineReader) :
    reader.nextEvent decode =
      match reader.nextLine with
      | (.error error, after) => (.error error, after)
      | (.ok none, after) => (.ok none, after)
      | (.ok (some line), after) =>
        match payload? line with
        | none => after.nextEvent decode
        | some payload =>
          if payload = endMarker then (.ok none, after.release)
          else
            match decodeText decode payload with
            | .ok event => (.ok (some event), after)
            | .error error => (.error (.badEvent error line), after.release) := by
  rw [nextEvent]
  split
  · rename_i read
    rw [read]
  · rename_i read
    rw [read]
  · rename_i read
    exact read ▸ rfl

theorem next_event_frugal (decode : Decoder α) (reader : LineReader) :
    Frugal (LineReader.nextEvent decode) reader := by
  unfold Frugal
  fun_induction LineReader.nextEvent decode reader with
  | case1 reader error after read =>
    obtain ⟨used, draws, same⟩ := (next_line_frugal reader).of_run read
    refine ⟨used, draws, fun fair rest closed => ?_⟩
    simp only [next_event_eq, same fair rest closed]
  | case2 reader after read =>
    obtain ⟨used, draws, same⟩ := (next_line_frugal reader).of_run read
    refine ⟨used, draws, fun fair rest closed => ?_⟩
    simp only [next_event_eq, same fair rest closed]
  | case3 reader line after read skipped ih =>
    obtain ⟨used, draws, same⟩ := (next_line_frugal reader).of_run read
    obtain ⟨more, later, laterSame⟩ := ih
    refine ⟨used ++ more, draws.trans later, fun fair rest closed => ?_⟩
    have between := later.nothing_behind_end (draws.fair fair) closed
    rw [next_event_eq, List.append_assoc, same fair (more ++ rest) between]
    simp only [skipped]
    exact laterSame (draws.fair fair) rest closed
  | case4 reader line after read marked =>
    obtain ⟨used, draws, same⟩ := (next_line_frugal reader).of_run read
    have released := release_draws after
    refine ⟨used, by simpa using draws.trans released, fun fair rest closed => ?_⟩
    have before : SawEnd after.source → rest = [] := fun ended => closed (released.ended ended)
    simp only [next_event_eq, same fair rest before, marked, ↓reduceIte, release_facing]
  | case5 reader line after read payload carried unmarked event decoded =>
    obtain ⟨used, draws, same⟩ := (next_line_frugal reader).of_run read
    refine ⟨used, draws, fun fair rest closed => ?_⟩
    simp only [next_event_eq, same fair rest closed, carried, unmarked, decoded, ↓reduceIte]
  | case6 reader line after read payload carried unmarked error decoded =>
    obtain ⟨used, draws, same⟩ := (next_line_frugal reader).of_run read
    have released := release_draws after
    refine ⟨used, by simpa using draws.trans released, fun fair rest closed => ?_⟩
    have before : SawEnd after.source → rest = [] := fun ended => closed (released.ended ended)
    simp only [next_event_eq, same fair rest before, carried, unmarked, decoded, ↓reduceIte,
      release_facing]

end Events

/-- The stream as it would be with other reads to come. -/
def streamFacing (stream : DeltaStream) (reads : List Read) : DeltaStream :=
  { stream with reader := facing stream.reader reads }

section Deltas
variable {reader : LineReader}

private theorem hand_out_draws (reader : LineReader) (delta : Delta) (rest : List Delta) :
    DrawsAlone reader (DeltaStream.handOut reader delta rest).2.reader [] := by
  unfold DeltaStream.handOut LineReader.checkCancelled
  split <;> rename_i read <;> split at read <;> cases read
  · exact release_draws reader
  · split
    · exact release_draws reader
    · exact .refl reader

private theorem hand_out_facing (reader : LineReader) (delta : Delta) (rest : List Delta)
    (reads : List Read) :
    DeltaStream.handOut (facing reader reads) delta rest =
      ((DeltaStream.handOut reader delta rest).1,
        streamFacing (DeltaStream.handOut reader delta rest).2 reads) := by
  have token : (facing reader reads).cancelled = reader.cancelled := rfl
  simp only [DeltaStream.handOut, LineReader.checkCancelled, release_facing, token]
  by_cases stopped : reader.cancelled = true
  · simp only [stopped, ↓reduceIte]
    rfl
  · by_cases final : delta.isFinal = true
    · simp only [stopped, final, ↓reduceIte, Bool.false_eq_true, release_facing]
      rfl
    · simp only [stopped, final, ↓reduceIte, Bool.false_eq_true]
      rfl

theorem read_on_eq (reader : LineReader) :
    DeltaStream.readOn reader =
      match reader.nextEvent Chunk.decode with
      | (.error error, after) => (.failed (.call error), .finish after)
      | (.ok none, after) => (.ended, .finish after)
      | (.ok (some chunk), after) =>
        match chunk.deltas with
        | [] => DeltaStream.readOn after
        | delta :: rest => DeltaStream.handOut after delta rest := by
  rw [DeltaStream.readOn]
  split
  · rename_i read
    rw [read]
  · rename_i read
    rw [read]
  · rename_i read
    exact read ▸ rfl

private theorem read_on_draws (reader : LineReader) :
    ∃ used, DrawsAlone reader (DeltaStream.readOn reader).2.reader used ∧
      (Fair reader.source →
        ∀ rest, (SawEnd (DeltaStream.readOn reader).2.reader.source → rest = []) →
          DeltaStream.readOn (facing reader (used ++ rest)) =
            ((DeltaStream.readOn reader).1, streamFacing (DeltaStream.readOn reader).2 rest)) := by
  fun_induction DeltaStream.readOn reader with
  | case1 reader error after read =>
    obtain ⟨used, draws, same⟩ := (next_event_frugal Chunk.decode reader).of_run read
    refine ⟨used, draws, fun fair rest closed => ?_⟩
    simp only [read_on_eq, same fair rest closed]
    rfl
  | case2 reader after read =>
    obtain ⟨used, draws, same⟩ := (next_event_frugal Chunk.decode reader).of_run read
    refine ⟨used, draws, fun fair rest closed => ?_⟩
    simp only [read_on_eq, same fair rest closed]
    rfl
  | case3 reader after chunk read none ih =>
    obtain ⟨used, draws, same⟩ := (next_event_frugal Chunk.decode reader).of_run read
    obtain ⟨more, later, laterSame⟩ := ih
    refine ⟨used ++ more, draws.trans later, fun fair rest closed => ?_⟩
    have between := later.nothing_behind_end (draws.fair fair) closed
    rw [read_on_eq, List.append_assoc, same fair (more ++ rest) between]
    simp only [none]
    exact laterSame (draws.fair fair) rest closed
  | case4 reader chunk after read delta rest listed =>
    obtain ⟨used, draws, same⟩ := (next_event_frugal Chunk.decode reader).of_run read
    have handed := hand_out_draws after delta rest
    refine ⟨used, by simpa using draws.trans handed, fun fair others closed => ?_⟩
    have before : SawEnd after.source → others = [] := fun ended => closed (handed.ended ended)
    simp only [read_on_eq, same fair others before, listed, hand_out_facing]

/-- A stream takes for its next item the reads that this needs, and would hand it out whatever came
next. -/
theorem next_draws (stream : DeltaStream) :
    ∃ used, DrawsAlone stream.reader stream.next.2.reader used ∧
      (Fair stream.reader.source →
        ∀ rest, (SawEnd stream.next.2.reader.source → rest = []) →
          (streamFacing stream (used ++ rest)).next =
            (stream.next.1, streamFacing stream.next.2 rest)) := by
  rcases stream with ⟨reader, queued, finished⟩
  cases finished with
  | true => exact ⟨[], .refl reader, fun _ _ _ => rfl⟩
  | false =>
    cases queued with
    | nil => exact read_on_draws reader
    | cons delta rest =>
      exact ⟨[], hand_out_draws reader delta rest, fun _ others _ =>
        hand_out_facing reader delta rest others⟩

end Deltas

end ChatClient.Drawing
