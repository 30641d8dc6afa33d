import ChatClient.Proofs.Stream.Laziness

/-! What a reader keeps to, whatever is done with it: reads, checks, releases and cancellations, in
any order. A reader that has let go of its source has nothing left and never comes back to it; one
that has not can account for every byte that it pulled, as part of a line that it has handed to some
read or as part of its buffer. One step lemma for each fact carries it through all operations. -/
namespace ChatClient.StreamOperations
open Json StreamLines LineReading LineReader StreamCalls StreamPayloads StreamRelease StreamNeed
open Laziness

/-- What can be done with a reader. -/
inductive Op : Type 1 where
  | read (call : Call)
  | check
  | release
  /-- The caller cancels the token; the reader is left alone. -/
  | cancel

namespace Op

abbrev Answer : Op → Type
  | .read call => call.Answer
  | .check => Except CallError Unit
  | .release => Unit
  | .cancel => Unit

def perform : (op : Op) → LineReader → op.Answer × LineReader
  | .read call, reader => call.serve reader
  | .check, reader => reader.checkCancelled
  | .release, reader => ((), reader.release)
  | .cancel, reader => ((), reader.cancel)

/-- Whether an operation fails, or a read reports the end. -/
def stops : (op : Op) → op.Answer → Bool
  | .read _, .ok (some _) => false
  | .read _, .ok none => true
  | .read _, .error _ => true
  | .check, .ok _ => false
  | .check, .error _ => true
  | .release, _ => false
  | .cancel, _ => false

end Op

/-- An operation that has been performed, its answer, and the reader behind it. -/
structure Done : Type 1 where
  op : Op
  answer : op.Answer
  reader : LineReader

/-- Performs operations one after the other, and keeps a record of them. -/
def run : List Op → LineReader → List Done × LineReader
  | [], reader => ([], reader)
  | op :: rest, reader =>
    let (answer, after) := op.perform reader
    let (done, last) := run rest after
    (⟨op, answer, after⟩ :: done, last)

/-- A line as its bytes came: the body, and whether a line feed stood behind it. -/
structure RawLine where
  body : List UInt8
  fed : Bool
  unbroken : (10 : UInt8) ∉ body

namespace RawLine

def bytes (line : RawLine) : List UInt8 :=
  line.body ++ if line.fed then [10] else []

/-- What is found in the place of the line. -/
def found (line : RawLine) : Line :=
  lineText (if line.fed then unreturned line.body else line.body)

end RawLine

/-- Whether an operation has consumed these lines: a read those that are its share, and it answers
from them; no other operation consumes a line. -/
def Takes : (op : Op) → op.Answer → List RawLine → Prop
  | .read call, answer, lines =>
    answer = call.answer (lines.map RawLine.found) ∧
      call.share (lines.map RawLine.found) = lines.map RawLine.found
  | _, _, lines => lines = []

/-- Between two states of a reader chunks have been pulled and lines have been consumed, and no byte
has been lost: what was buffered and what came is what was consumed and what is buffered then. A line
without a line feed is the last one of a source that has ended. -/
structure Consumes (reader after : LineReader) (lines : List RawLine) : Prop where
  bytes : ∃ chunks : List (List UInt8),
    reader.source.unread = chunks.map .bytes ++ after.source.unread ∧
      after.source.pulled = reader.source.pulled + chunks.length ∧
      reader.buffer ++ chunks.flatten = lines.flatMap RawLine.bytes ++ after.buffer
  inner : ∀ line ∈ lines.dropLast, line.fed = true
  last : after.exhausted = false → ∀ line ∈ lines, line.fed = true
  spent : reader.exhausted = true → lines = [] ∧ after.exhausted = true

/-- The reads of a script that its close takes up. -/
def closingReads : Close → List Read
  | .clean => []
  | .failing error => [.failure error]
  | .stalled => [.stall]

/-- What the polls of a source have been answered with: each with a chunk, save that the last one may
have met the close of the script. -/
structure Polls (reads : List Read) (source : Source) (chunks : List (List UInt8))
    (close : Option Close) : Prop where
  script : reads = chunks.map .bytes ++ close.toList.flatMap closingReads ++ source.unread
  pulled : source.pulled = chunks.length + (close.toList.flatMap closingReads).length
  polls : source.polls = chunks.length + close.toList.length
  bare : close = some .clean → source.unread = []
  ended : source.ended = true ↔ close = some .clean ∨ ∃ error, close = some (.failing error)

/-- What a reader keeps to between operations: nothing is polled for behind the close of the script.
-/
structure Kept (reads : List Read) (reader : LineReader) : Prop where
  held : Held reader
  polls : ∃ chunks close, Polls reads reader.source chunks close ∧
    (close.isSome = true → reader.exhausted = true)

section Composition
variable {reader between after : LineReader} {lines more : List RawLine}

theorem Consumes.refl (reader : LineReader) : Consumes reader reader [] where
  bytes := ⟨[], by simp⟩
  inner := nofun
  last _ := nofun
  spent exhausted := ⟨rfl, exhausted⟩

theorem Consumes.trans (first : Consumes reader between lines)
    (second : Consumes between after more) : Consumes reader after (lines ++ more) where
  bytes := by
    obtain ⟨chunks, unread, pulled, kept⟩ := first.bytes
    obtain ⟨others, unreadThen, pulledThen, keptThen⟩ := second.bytes
    refine ⟨chunks ++ others, ?_, ?_, ?_⟩
    · rw [unread, unreadThen, List.map_append, List.append_assoc]
    · rw [pulledThen, pulled, List.length_append, Nat.add_assoc]
    · rw [List.flatten_append, ← List.append_assoc, kept, List.append_assoc, keptThen,
        List.flatMap_append, List.append_assoc]
  inner line member := by
    cases more with
    | nil => exact first.inner line (by simpa using member)
    | cons next rest =>
      have going : between.exhausted = false := by
        rw [← Bool.not_eq_true]
        intro exhausted
        exact List.cons_ne_nil _ _ (second.spent exhausted).1
      rw [List.dropLast_append_cons, List.mem_append] at member
      rcases member with before | behind
      · exact first.last going line before
      · exact second.inner line behind
  last going line member := by
    rcases List.mem_append.mp member with before | behind
    · refine first.last ?_ line before
      rw [← Bool.not_eq_true]
      intro exhausted
      rw [(second.spent exhausted).2] at going
      contradiction
    · exact second.last going line behind
  spent exhausted := by
    obtain ⟨rfl, exhaustedThen⟩ := first.spent exhausted
    exact second.spent exhaustedThen

end Composition

section Lines
variable {reader after : LineReader} {text : String}

private theorem ok_of_map_some {line : Line}
    (told : line.map some = (.ok (some text) : Except CallError (Option String))) :
    line = .ok text := by
  cases line <;> simp_all [Except.map]

/-- A complete line in front of the buffer is taken off it with its feed. -/
private theorem front_line_consumes (reader : LineReader) {line rest : List UInt8}
    (reading : reader.exhausted = false)
    (split : splitLine? reader.buffer = some (line, rest))
    (read : reader.frontLine line rest = (.ok (some text), after)) :
    ∃ raw : RawLine, raw.found = .ok text ∧ Consumes reader after [raw] := by
  obtain ⟨whole, unbroken⟩ := split_line_some split
  simp only [frontLine, drop_return_eq, Prod.mk.injEq] at read
  obtain ⟨told, rfl⟩ := read
  refine ⟨⟨line, true, unbroken⟩, ok_of_map_some told, ⟨⟨[], ?_⟩, by simp, ?_, ?_⟩⟩
  · simp [RawLine.bytes, whole]
  · simp
  · simp [reading]

/-- Reading on joins chunks to the buffer until a line can be taken off it. The induction is on the
reads still to come; a chunk that brings no feed consumes nothing. -/
private theorem pull_consumes (reader : LineReader) (reads : List Read)
    (unread : reader.source.unread = reads)
    (reading : reader.exhausted = false) (unbroken : (10 : UInt8) ∉ reader.buffer)
    (read : reader.pull reads = (.ok (some text), after)) :
    ∃ raw : RawLine, raw.found = .ok text ∧ Consumes reader after [raw] := by
  induction reads generalizing reader with
  | nil =>
    simp only [pull, lastLine] at read
    split at read
    · simp at read
    · simp only [Prod.mk.injEq] at read
      obtain ⟨told, rfl⟩ := read
      refine ⟨⟨reader.buffer, false, unbroken⟩, ok_of_map_some told, ⟨⟨[], ?_⟩, ?_, ?_, ?_⟩⟩
      · simp [RawLine.bytes, Source.reportEnd]
      · simp
      · simp
      · simp [reading]
  | cons first rest ih =>
    cases first with
    | failure error => simp [pull] at read
    | stall => simp [pull] at read
    | bytes chunk =>
      let filled : LineReader :=
        { reader with
          source := reader.source.advance (.bytes chunk) rest, buffer := reader.buffer ++ chunk }
      have joined : Consumes reader filled [] :=
        ⟨⟨[chunk], by simp [unread, filled, Source.advance]⟩, by simp, by simp, by simp [reading]⟩
      simp only [pull] at read
      have line : ∃ raw : RawLine, raw.found = .ok text ∧ Consumes filled after [raw] := by
        split at read
        · rename_i split
          exact front_line_consumes filled reading split read
        · rename_i split
          exact ih filled rfl reading (split_line_none split) read
      obtain ⟨raw, found, consumes⟩ := line
      exact ⟨raw, found, joined.trans consumes⟩

/-- A line that is handed out has been consumed. -/
theorem next_line_consumes (held : Held reader)
    (read : reader.nextLine = (.ok (some text), after)) :
    ∃ raw : RawLine, raw.found = .ok text ∧ Consumes reader after [raw] := by
  have line : reader.readLine = (.ok (some text), after) := by
    unfold nextLine at read
    split at read
    · simp at read
    · rename_i same
      simpa [same] using read
  unfold readLine at line
  split at line
  · simp at line
  cases exhausted : reader.exhausted with
  | true =>
    have drained := held.settled.exhausted_drained exhausted
    have split : splitLine? ([] : List UInt8) = none := rfl
    simp [drained, split, exhausted, lastLine] at line
  | false =>
    split at line
    · rename_i split
      exact front_line_consumes reader exhausted split line
    · rename_i split
      simp only [exhausted, Bool.false_eq_true, ↓reduceIte] at line
      exact pull_consumes reader _ rfl exhausted (split_line_none split) line

/-- An event that is handed out has been found on the last of the lines consumed, and those before
it have been passed over. -/
theorem next_event_consumes {α : Type} (decode : Decoder α) (held : Held reader)
    (handed : handsOut (reader.nextEvent decode).1 = true) :
    ∃ lines, Takes (.read (.event decode)) (reader.nextEvent decode).1 lines ∧
      Consumes reader (reader.nextEvent decode).2 lines := by
  fun_induction LineReader.nextEvent decode reader with
  | case1 => simp [handsOut] at handed
  | case2 => simp [handsOut] at handed
  | case3 reader line next read skipped ih =>
    have answered := next_line_answered held
    rw [read] at answered
    obtain ⟨raw, found, consumes⟩ := next_line_consumes held read
    obtain ⟨lines, ⟨told, shared⟩, later⟩ := ih answered.held handed
    rw [payload_eq_content] at skipped
    have passed : (Call.event decode).passes raw.found = true := found ▸ event_passed skipped
    refine ⟨raw :: lines, ⟨?_, ?_⟩, consumes.trans later⟩
    · rw [List.map_cons, answer_passed passed]
      exact told
    · rw [List.map_cons, share_passed passed, shared]
  | case4 => simp [handsOut] at handed
  | case5 reader line next read payload carried unmarked event decoded =>
    obtain ⟨raw, found, consumes⟩ := next_line_consumes held read
    rw [payload_eq_content] at carried
    have acted : (Call.event decode).passes raw.found = false := found ▸ event_acted carried
    refine ⟨[raw], ⟨?_, ?_⟩, consumes⟩
    · rw [List.map_singleton, answer_acted acted, found]
      exact (act_on_event carried unmarked decoded).symm
    · rw [List.map_singleton, share_acted acted]
  | case6 => simp [handsOut] at handed

theorem serve_consumes (call : Call) (held : Held reader)
    (handed : handsOut (call.serve reader).1 = true) :
    ∃ lines, Takes (.read call) (call.serve reader).1 lines ∧
      Consumes reader (call.serve reader).2 lines := by
  cases call with
  | event decode => exact next_event_consumes decode held handed
  | line =>
    cases read : reader.nextLine with
    | mk answer after =>
      rcases answer with error | _ | text
      · simp [Call.serve, read, handsOut] at handed
      · simp [Call.serve, read, handsOut] at handed
      · obtain ⟨raw, found, consumes⟩ := next_line_consumes held read
        have acted : Call.line.passes raw.found = false := rfl
        refine ⟨[raw], ⟨?_, ?_⟩, by simpa [Call.serve, read] using consumes⟩
        · rw [List.map_singleton, answer_acted acted, found]
          exact congrArg Prod.fst read
        · rw [List.map_singleton, share_acted acted]

end Lines

section Polling
variable {reads rest : List Read} {source : Source} {reader : LineReader}
  {chunks : List (List UInt8)} {close : Option Close}

theorem polls_ofReads (reads : List Read) : Polls reads (.ofReads reads) [] none :=
  ⟨rfl, rfl, rfl, nofun, by simp [Source.ofReads]⟩

/-- One more poll of a source that has answered with chunks so far, for each of the answers. -/
theorem Polls.chunk {chunk : List UInt8} (polls : Polls reads source chunks none)
    (unread : source.unread = .bytes chunk :: rest) :
    Polls reads (source.advance (.bytes chunk) rest) (chunks ++ [chunk]) none where
  script := by simpa [Source.advance, unread] using polls.script
  pulled := by simpa [Source.advance] using polls.pulled
  polls := by simpa [Source.advance] using polls.polls
  bare := nofun
  ended := by simpa [Source.advance] using polls.ended

theorem Polls.failure {error : CallError} (polls : Polls reads source chunks none)
    (unread : source.unread = .failure error :: rest) :
    Polls reads (source.advance (.failure error) rest) chunks (some (.failing error)) where
  script := by simpa [Source.advance, unread, closingReads] using polls.script
  pulled := by simpa [Source.advance, closingReads] using polls.pulled
  polls := by simpa [Source.advance] using polls.polls
  bare := nofun
  ended := by simp [Source.advance]

theorem Polls.stall (polls : Polls reads source chunks none)
    (unread : source.unread = .stall :: rest) :
    Polls reads (source.advance .stall rest) chunks (some .stalled) where
  script := by simpa [Source.advance, unread, closingReads] using polls.script
  pulled := by simpa [Source.advance, closingReads] using polls.pulled
  polls := by simpa [Source.advance] using polls.polls
  bare := nofun
  ended := by simpa [Source.advance] using polls.ended

theorem Polls.finish (polls : Polls reads source chunks none) (unread : source.unread = []) :
    Polls reads source.reportEnd chunks (some .clean) where
  script := by simpa [Source.reportEnd, closingReads] using polls.script
  pulled := by simpa [Source.reportEnd, closingReads] using polls.pulled
  polls := by simpa [Source.reportEnd] using polls.polls
  bare _ := unread
  ended := by simp [Source.reportEnd]

/-- The bytes of a script as far as it has been pulled are those of the chunks. -/
theorem Polls.bytes_pulled (polls : Polls reads source chunks close) :
    bytesOf (reads.take source.pulled) = chunks.flatten := by
  have reach : source.pulled =
      (chunks.map Read.bytes ++ close.toList.flatMap closingReads).length := by
    rw [polls.pulled, List.length_append, List.length_map]
  have none : bytesOf (close.toList.flatMap closingReads) = [] := by
    rcases close with _ | _ | error | _ <;> rfl
  rw [polls.script, List.take_left' reach.symm, bytes_append, none, List.append_nil]

/-- Letting go of a source polls nothing. -/
theorem release_polls (polls : Polls reads reader.source chunks close) :
    Polls reads reader.release.source chunks close := by
  unfold LineReader.release
  split
  · exact polls
  · exact ⟨polls.script, polls.pulled, polls.polls, polls.bare, polls.ended⟩

private theorem last_line_polls (polls : Polls reads reader.source chunks close) :
    Polls reads reader.lastLine.2.source chunks close := by
  unfold LineReader.lastLine
  split
  · exact release_polls polls
  · exact polls

theorem release_keeps_exhausted (exhausted : reader.exhausted = true) :
    reader.release.exhausted = true := by
  unfold LineReader.release
  split
  · exact exhausted
  · rfl

private theorem last_line_keeps_exhausted (exhausted : reader.exhausted = true) :
    reader.lastLine.2.exhausted = true := by
  unfold LineReader.lastLine
  split
  · exact release_keeps_exhausted exhausted
  · exact exhausted

/-- Reading on polls as long as chunks come. The induction is on the reads still to come, all polls
before them having been answered with chunks. -/
private theorem pull_polls (rest : List Read) (unread : reader.source.unread = rest)
    (polls : Polls reads reader.source chunks none) :
    ∃ chunks close, Polls reads (reader.pull rest).2.source chunks close ∧
      (close.isSome = true → (reader.pull rest).2.exhausted = true ∨
        ∃ error, (reader.pull rest).1 = .error error) := by
  induction rest generalizing reader chunks with
  | nil =>
    let ended : LineReader := { reader with source := reader.source.reportEnd, exhausted := true }
    have finished : Polls reads ended.source chunks (some .clean) := polls.finish unread
    exact ⟨chunks, _, last_line_polls finished, fun _ => .inl (last_line_keeps_exhausted rfl)⟩
  | cons read rest ih =>
    cases read with
    | failure error => exact ⟨chunks, _, polls.failure unread, fun _ => .inr ⟨error, rfl⟩⟩
    | stall => exact ⟨chunks, _, polls.stall unread, fun _ => .inr ⟨.cancelled, rfl⟩⟩
    | bytes chunk =>
      simp only [pull]
      split
      · exact ⟨_, none, polls.chunk unread, by simp⟩
      · exact ih rfl (polls.chunk unread)

end Polling

section Steps
variable {reads : List Read} {reader : LineReader}

theorem kept_ofReads (reads : List Read) (cancelled : Bool) :
    Kept reads (.ofReads reads cancelled) :=
  ⟨held_ofReads reads cancelled, [], none, polls_ofReads reads, nofun⟩

theorem release_kept (kept : Kept reads reader) : Kept reads reader.release := by
  obtain ⟨chunks, close, polls, met⟩ := kept.polls
  exact ⟨release_held kept.held, chunks, close, release_polls polls,
    fun some => release_keeps_exhausted (met some)⟩

theorem next_line_kept (kept : Kept reads reader) : Kept reads reader.nextLine.2 := by
  have held := (next_line_answered kept.held).held
  cases exhausted : reader.exhausted with
  | true =>
    rw [next_line_exhausted kept.held exhausted]
    exact release_kept kept
  | false =>
    obtain ⟨chunks, close, polls, met⟩ := kept.polls
    have unmet : close = none := by
      cases close with
      | none => rfl
      | some close => simp [met rfl] at exhausted
    subst unmet
    have read : ∃ chunks close, Polls reads reader.readLine.2.source chunks close ∧
        (close.isSome = true → reader.readLine.2.exhausted = true ∨
          ∃ error, reader.readLine.1 = .error error) := by
      unfold readLine
      split
      · exact ⟨chunks, none, release_polls polls, nofun⟩
      · split
        · exact ⟨chunks, none, polls, nofun⟩
        · simp only [exhausted, Bool.false_eq_true, ↓reduceIte]
          exact pull_polls _ rfl polls
    refine ⟨held, ?_⟩
    unfold nextLine at held ⊢
    cases told : reader.readLine with
    | mk answer after =>
      rw [told] at read held
      obtain ⟨chunks, close, polls, met⟩ := read
      cases answer with
      | ok line => exact ⟨chunks, close, polls, fun some => (met some).resolve_right nofun⟩
      | error error =>
        exact ⟨chunks, close, release_polls polls, fun _ =>
          held.settled.released_exhausted release_released⟩

theorem kept_of_next_line {after : LineReader} {answer : Except CallError (Option String)}
    (kept : Kept reads reader) (read : reader.nextLine = (answer, after)) : Kept reads after := by
  have line := next_line_kept kept
  rwa [read] at line

theorem next_event_kept {α : Type} (decode : Decoder α) (kept : Kept reads reader) :
    Kept reads (reader.nextEvent decode).2 := by
  fun_induction LineReader.nextEvent decode reader with
  | case1 reader error after read => exact kept_of_next_line kept read
  | case2 reader after read => exact kept_of_next_line kept read
  | case3 reader line after read skipped ih => exact ih (kept_of_next_line kept read)
  | case4 reader line after read marked => exact release_kept (kept_of_next_line kept read)
  | case5 reader line after read => exact kept_of_next_line kept read
  | case6 reader line after read => exact release_kept (kept_of_next_line kept read)

/-- Whatever is done with a reader, it keeps to the same. -/
theorem perform_kept (op : Op) (kept : Kept reads reader) : Kept reads (op.perform reader).2 := by
  cases op with
  | read call =>
    cases call with
    | line => exact next_line_kept kept
    | event decode => exact next_event_kept decode kept
  | check =>
    simp only [Op.perform, checkCancelled]
    split
    · exact release_kept kept
    · exact kept
  | release => exact release_kept kept
  | cancel => exact ⟨cancel_held kept.held, kept.polls⟩

/-- An operation that fails, and a read that reports the end, have let go of the source. -/
theorem perform_stops (op : Op) (held : Held reader)
    (stopped : op.stops (op.perform reader).1 = true) : (op.perform reader).2.released = true := by
  cases op with
  | read call =>
    have answered := serve_answered call held
    show (call.serve reader).2.released = true
    rw [answered.released]
    simp only [Op.perform] at stopped
    cases told : (call.serve reader).1 with
    | error error => rfl
    | ok content =>
      cases content with
      | none => rfl
      | some content => simp [told, Op.stops] at stopped
  | check =>
    cases token : reader.cancelled with
    | true => simp [Op.perform, checkCancelled, token]
    | false => simp [Op.perform, checkCancelled, token, Op.stops] at stopped
  | release => exact release_released
  | cancel => cases stopped

/-- Only a read polls, and none does once there is nothing more to ask for. -/
theorem perform_exhausted (op : Op) (held : Held reader) (exhausted : reader.exhausted = true) :
    (op.perform reader).2.exhausted = true ∧
      (op.perform reader).2.source.polls = reader.source.polls := by
  have same : reader.release.source.polls = reader.source.polls := by
    unfold LineReader.release
    split <;> rfl
  have released := release_keeps_exhausted exhausted
  cases op with
  | read call =>
    show (call.serve reader).2.exhausted = true ∧ (call.serve reader).2.source.polls = _
    rw [serve_exhausted call held exhausted]
    exact ⟨released, same⟩
  | check =>
    simp only [Op.perform, checkCancelled]
    split
    · exact ⟨released, same⟩
    · exact ⟨exhausted, rfl⟩
  | release => exact ⟨released, same⟩
  | cancel => exact ⟨exhausted, rfl⟩

theorem perform_released (op : Op) (held : Held reader) (released : reader.released = true) :
    (op.perform reader).2.released = true := by
  cases op with
  | read call =>
    show (call.serve reader).2.released = true
    rw [serve_released call held released, released]
  | check =>
    simp only [Op.perform, checkCancelled]
    split
    · exact release_released
    · exact released
  | release => exact release_released
  | cancel => exact released

/-- As long as a reader has not let go of its source, every operation accounts for its lines. -/
theorem perform_consumes (op : Op) (held : Held reader)
    (going : (op.perform reader).2.released = false) :
    ∃ lines, Takes op (op.perform reader).1 lines ∧ Consumes reader (op.perform reader).2 lines := by
  cases op with
  | read call =>
    have answered := serve_answered call held
    have going : (call.serve reader).2.released = false := going
    have handed : handsOut (call.serve reader).1 = true := by simpa [answered.released] using going
    exact serve_consumes call held handed
  | check =>
    simp only [Op.perform, checkCancelled] at going ⊢
    split at going
    · simp at going
    · rename_i uncancelled
      simp only [uncancelled]
      exact ⟨[], rfl, .refl reader⟩
  | release => simp [Op.perform] at going
  | cancel =>
    have same := Consumes.refl reader
    exact ⟨[], rfl, ⟨same.bytes, same.inner, same.last, same.spent⟩⟩

end Steps

section Runs
variable {reads : List Read} {reader : LineReader}

theorem run_cons (op : Op) (rest : List Op) (reader : LineReader) :
    run (op :: rest) reader =
      (⟨op, (op.perform reader).1, (op.perform reader).2⟩ :: (run rest (op.perform reader).2).1,
        (run rest (op.perform reader).2).2) :=
  rfl

theorem run_kept (ops : List Op) (kept : Kept reads reader) : Kept reads (run ops reader).2 := by
  induction ops generalizing reader with
  | nil => exact kept
  | cons op rest ih => exact ih (perform_kept op kept)

theorem run_stops (ops : List Op) (kept : Kept reads reader) :
    ∀ one ∈ (run ops reader).1, one.op.stops one.answer = true → one.reader.released = true := by
  induction ops generalizing reader with
  | nil => simp [run]
  | cons op rest ih =>
    intro one member
    rw [run_cons] at member
    rcases List.mem_cons.mp member with rfl | later
    · exact perform_stops op kept.held
    · exact ih (perform_kept op kept) one later

theorem run_exhausted (ops : List Op) (kept : Kept reads reader)
    (exhausted : reader.exhausted = true) :
    (run ops reader).2.source.polls = reader.source.polls := by
  induction ops generalizing reader with
  | nil => rfl
  | cons op rest ih =>
    obtain ⟨still, same⟩ := perform_exhausted op kept.held exhausted
    rw [run_cons, ih (perform_kept op kept) still, same]

theorem run_released (ops : List Op) (kept : Kept reads reader)
    (released : reader.released = true) : (run ops reader).2.released = true := by
  induction ops generalizing reader with
  | nil => exact released
  | cons op rest ih => exact ih (perform_kept op kept) (perform_released op kept.held released)

/-- Nothing is let go of and taken up again, so where a run ends with the source held all of its
operations account for their lines. -/
theorem run_consumes (ops : List Op) (kept : Kept reads reader)
    (going : (run ops reader).2.released = false) :
    ∃ taken : List (List RawLine),
      List.Forall₂ (fun one lines => Takes one.op one.answer lines) (run ops reader).1 taken ∧
        Consumes reader (run ops reader).2 taken.flatten := by
  induction ops generalizing reader with
  | nil => exact ⟨[], .nil, .refl reader⟩
  | cons op rest ih =>
    have after := perform_kept op kept
    have unreleased : (op.perform reader).2.released = false := by
      rw [← Bool.not_eq_true]
      intro released
      rw [run_cons, run_released rest after released] at going
      contradiction
    obtain ⟨lines, takes, consumes⟩ := perform_consumes op kept.held unreleased
    obtain ⟨taken, all, later⟩ := ih after going
    exact ⟨lines :: taken, .cons takes all, consumes.trans later⟩

/-- Behind any run of operations: a reader that has let go of its source is at its end, holds nothing
and stays so, and at its end it buffers nothing. Each operation that failed, and each read that
reported the end, has let go of the source. All polls but the last were answered with chunks, and
once the source has ended or was dropped no later operation polls it. Until it is let go of, the lines
that the operations have taken, with their feeds, and the buffer are the bytes of all chunks. -/
theorem reader_kept_through_operations (reads : List Read) (cancelled : Bool) (ops : List Op) :
    let done := (run ops (.ofReads reads cancelled)).1
    let reader := (run ops (.ofReads reads cancelled)).2
    (reader.released = true →
        reader.exhausted = true ∧ reader.buffer = [] ∧ reader.source.dropped = true) ∧
      (reader.exhausted = true → reader.buffer = []) ∧
      (∀ later, reader.released = true → (run later reader).2.released = true) ∧
      (∀ one ∈ done, one.op.stops one.answer = true → one.reader.released = true) ∧
      (∀ later, reader.source.ended = true ∨ reader.source.dropped = true →
        (run later reader).2.source.polls = reader.source.polls) ∧
      ∃ chunks close, Polls reads reader.source chunks close ∧
        (reader.released = false → ∃ taken : List (List RawLine),
          List.Forall₂ (fun one lines => Takes one.op one.answer lines) done taken ∧
            (∀ line ∈ taken.flatten.dropLast, line.fed = true) ∧
            (reader.exhausted = false → ∀ line ∈ taken.flatten, line.fed = true) ∧
            taken.flatten.flatMap RawLine.bytes ++ reader.buffer = chunks.flatten) := by
  intro done reader
  have start := kept_ofReads reads cancelled
  have kept : Kept reads reader := run_kept ops start
  obtain ⟨chunks, close, polls, met⟩ := kept.polls
  have drained := kept.held.settled.exhausted_drained
  refine ⟨fun released => ?_, drained, fun later => run_released later kept, run_stops ops start,
    fun later gone => ?_, chunks, close, polls, fun going => ?_⟩
  · have exhausted := kept.held.settled.released_exhausted released
    exact ⟨exhausted, drained exhausted, kept.held.dropped.trans released⟩
  · apply run_exhausted later kept
    rcases gone with ended | dropped
    · apply met
      rcases polls.ended.mp ended with rfl | ⟨error, rfl⟩ <;> rfl
    · exact kept.held.settled.released_exhausted (kept.held.dropped.symm.trans dropped)
  · obtain ⟨taken, takes, consumes⟩ := run_consumes ops start going
    obtain ⟨pulled, script, count, account⟩ := consumes.bytes
    have front : reads.take reader.source.pulled = pulled.map Read.bytes ++ [] := by
      have reach : (pulled.map Read.bytes).length = reader.source.pulled := by
        rw [List.length_map, count]
        exact (Nat.zero_add _).symm
      have script : reads = pulled.map Read.bytes ++ reader.source.unread := script
      rw [script, List.take_left' reach, List.append_nil]
    have came : pulled.flatten = chunks.flatten := by
      rw [← polls.bytes_pulled, front, bytes_append]
      exact (List.append_nil _).symm
    exact ⟨taken, takes, consumes.inner, consumes.last, account.symm.trans came⟩

end Runs

end ChatClient.StreamOperations
