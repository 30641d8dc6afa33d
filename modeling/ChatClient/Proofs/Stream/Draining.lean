import ChatClient.Proofs.Stream.Silence

/-! Every call on a reader comes back, and a reader that is read on and on runs dry. A call goes
round in a loop: one turn asks the source at most once, or takes a line that carries nothing, and
then there is less left to do for the next. What a script can still hand out is bounded by the line
feeds that are left on it. -/
namespace ChatClient.StreamDraining
open Json StreamLines LineReading LineReader StreamOperations StreamSilence
open Drawing (next_event_eq)
open Laziness (serve_answered)
open StreamCalls (Call)
open StreamNeed (bytes_append)
open StreamRelease (Held release_held)

/-- How one turn of the loop of a call comes out. -/
inductive Turn (α : Type) where
  | answers (answer : Except CallError (Option α)) (after : LineReader)
  | again (next : LineReader)

/-- The end of a turn that has something to tell. A failure releases the source. -/
def telling : Except CallError (Option String) × LineReader → Turn String
  | (.error error, after) => .answers (.error error) after.release
  | (.ok line, after) => .answers (.ok line) after

/-- The reader behind a poll that found the end. -/
def ended (reader : LineReader) : LineReader :=
  { reader with source := reader.source.reportEnd, exhausted := true }

/-- The reader behind a poll that brought a chunk. -/
def filled (reader : LineReader) (chunk : List UInt8) (rest : List Read) : LineReader :=
  { reader with
    source := reader.source.advance (.bytes chunk) rest
    buffer := reader.buffer ++ chunk }

/-- The end of a turn that polls the source once. -/
def pollTurn (reader : LineReader) : Turn String :=
  match reader.source.unread with
  | [] => .again (ended reader)
  | .failure error :: rest =>
    telling (.error error, { reader with source := reader.source.advance (.failure error) rest })
  | .stall :: rest =>
    telling (.error .cancelled,
      { reader with source := reader.source.advance .stall rest, cancelled := true })
  | .bytes chunk :: rest => .again (filled reader chunk rest)

/-- One turn of a call for a line: a look at the token, at the buffer and at the end, in this order,
and only then at the source. -/
def lineTurn (reader : LineReader) : Turn String :=
  if reader.cancelled then telling (.error .cancelled, reader.release)
  else
    match splitLine? reader.buffer with
    | some (line, rest) => telling (reader.frontLine line rest)
    | none => if reader.exhausted then telling reader.lastLine else pollTurn reader

/-- One turn of a call for an event: one for a line, and a line without a payload is none. -/
def eventTurn {α : Type} (decode : Decoder α) (reader : LineReader) : Turn α :=
  match lineTurn reader with
  | .again next => .again next
  | .answers (.error error) after => .answers (.error error) after
  | .answers (.ok none) after => .answers (.ok none) after
  | .answers (.ok (some line)) after =>
    match payload? line with
    | none => .again after
    | some payload =>
      if payload = endMarker then .answers (.ok none) after.release
      else
        match decodeText decode payload with
        | .ok event => .answers (.ok (some event)) after
        | .error error => .answers (.error (.badEvent error line)) after.release

def turn : (call : Call) → LineReader → Turn call.Content
  | .line => lineTurn
  | .event decode => eventTurn decode

/-- A loop of turns: from a reader it takes so many of them to an answer. -/
inductive Loops {α : Type} (turn : LineReader → Turn α) :
    LineReader → Nat → Except CallError (Option α) × LineReader → Prop where
  | answers {reader after : LineReader} {answer : Except CallError (Option α)}
      (turned : turn reader = .answers answer after) : Loops turn reader 1 (answer, after)
  | again {reader next : LineReader} {turns : Nat}
      {outcome : Except CallError (Option α) × LineReader} (turned : turn reader = .again next)
      (rest : Loops turn next turns outcome) : Loops turn reader (turns + 1) outcome

/-- Whether the end of the source is still to be seen. -/
def endUnseen (reader : LineReader) : Nat :=
  if reader.exhausted then 0 else 1

/-- What is left to do: bytes to hand out, reads to take, and the end to see. -/
def workLeft (reader : LineReader) : Nat :=
  reader.pending + reader.source.unread.length + endUnseen reader

/-- How many polls a source will have had when all its reads and its end have been asked for. -/
def budget (reader : LineReader) : Nat :=
  reader.source.polls + reader.source.unread.length + endUnseen reader

/-- What a turn owes to the call that it belongs to: it answers as the call does, or leaves the same
call to be made with less to do. It polls within the budget, and what it hands out is done with. -/
def Pays {α : Type} (call : LineReader → Except CallError (Option α) × LineReader)
    (reader : LineReader) : Turn α → Prop
  | .answers answer after =>
    call reader = (answer, after) ∧ budget after ≤ budget reader ∧
      (handsOut answer = true → workLeft after < workLeft reader)
  | .again next =>
    call reader = call next ∧ budget next ≤ budget reader ∧ workLeft next < workLeft reader

/-- There is nothing at hand to answer a call with but what the source has. -/
structure Waiting (reader : LineReader) : Prop where
  uncancelled : reader.cancelled = false
  unfed : splitLine? reader.buffer = none
  unexhausted : reader.exhausted = false

/-- How many more lines can be handed out at most: one for each line feed, and a tail. -/
def room (reader : LineReader) : Nat :=
  if reader.exhausted then 0
  else (reader.buffer ++ bytesOf reader.source.unread).count 10 + 1

/-- The line feeds on a script. -/
def lineFeeds : List Read → Nat
  | [] => 0
  | .bytes chunk :: rest => chunk.count 10 + lineFeeds rest
  | .failure _ :: rest => lineFeeds rest
  | .stall :: rest => lineFeeds rest

section Turns
variable {reader after : LineReader}

theorem release_budget (reader : LineReader) : budget reader.release ≤ budget reader := by
  unfold LineReader.release
  split
  · exact Nat.le_refl _
  · simp [budget, endUnseen, Source.drop]

/-- An answer that hands nothing out need not leave less to do. -/
theorem nothing_owed {α : Type} {answer : Except CallError (Option α)} {less : Prop}
    (nothing : handsOut answer = false) (handed : handsOut answer = true) : less :=
  absurd (nothing.symm.trans handed) Bool.false_ne_true

/-- A read that has been made ends a turn. -/
theorem telling_pays {outcome : Except CallError (Option String) × LineReader}
    (read : reader.readLine = outcome) (cheap : budget outcome.2 ≤ budget reader)
    (less : handsOut outcome.1 = true → workLeft outcome.2 < workLeft reader) :
    Pays nextLine reader (telling outcome) := by
  obtain ⟨answer, after⟩ := outcome
  cases answer with
  | error error =>
    have served : reader.nextLine = (.error error, after.release) := by simp [nextLine, read]
    exact ⟨served, (release_budget after).trans cheap, nothing_owed rfl⟩
  | ok line =>
    have served : reader.nextLine = (.ok line, after) := by simp [nextLine, read]
    exact ⟨served, cheap, less⟩

theorem front_line_pays {line rest : List UInt8} (uncancelled : reader.cancelled = false)
    (split : splitLine? reader.buffer = some (line, rest)) :
    Pays nextLine reader (telling (reader.frontLine line rest)) := by
  have shorter := splitLine?_length split
  have same : endUnseen { reader with buffer := rest } = endUnseen reader := rfl
  refine telling_pays (by simp [readLine, uncancelled, split]) (Nat.le_refl _) fun _ => ?_
  simp only [frontLine, workLeft, pending, same]
  omega

theorem last_line_pays (uncancelled : reader.cancelled = false)
    (split : splitLine? reader.buffer = none) (exhausted : reader.exhausted = true) :
    Pays nextLine reader (telling reader.lastLine) := by
  refine telling_pays (by simp [readLine, uncancelled, split, exhausted]) ?_ fun handed => ?_
  · unfold lastLine
    split
    · exact release_budget reader
    · exact Nat.le_refl _
  · unfold lastLine at handed ⊢
    cases content : reader.buffer with
    | nil => simp [content, handsOut] at handed
    | cons first rest => simp [workLeft, pending, endUnseen, content]

theorem Waiting.reads (waiting : Waiting reader) :
    reader.readLine = reader.pull reader.source.unread := by
  simp [readLine, waiting.uncancelled, waiting.unfed, waiting.unexhausted]

/-- A turn that polls goes round again with a reader that the same call can be made on. -/
theorem again_pays {next : LineReader} (read : reader.readLine = next.readLine)
    (cheap : budget next ≤ budget reader) (less : workLeft next < workLeft reader) :
    Pays nextLine reader (.again next) := by
  have same : reader.nextLine = next.nextLine := by
    unfold nextLine
    rw [read]
  exact ⟨same, cheap, less⟩

theorem ended_pays (waiting : Waiting reader) (unread : reader.source.unread = []) :
    Pays nextLine reader (.again (ended reader)) := by
  have read : (ended reader).readLine = (ended reader).lastLine := by
    simp [readLine, ended, waiting.uncancelled, waiting.unfed]
  have pulled : reader.readLine = (ended reader).lastLine := by
    rw [waiting.reads, unread]
    rfl
  have unseen : endUnseen reader = 1 := by simp [endUnseen, waiting.unexhausted]
  have seen : endUnseen (ended reader) = 0 := rfl
  refine again_pays (pulled.trans read.symm) ?_ ?_
  · have polls : (ended reader).source.polls = reader.source.polls + 1 := rfl
    have left : (ended reader).source.unread = reader.source.unread := rfl
    simp only [budget, polls, left, seen, unseen]
    omega
  · have bytes : (ended reader).pending = reader.pending := rfl
    have left : (ended reader).source.unread = reader.source.unread := rfl
    simp only [workLeft, bytes, left, seen, unseen]
    omega

/-- A read that is polled for is paid from the budget. -/
theorem budget_advance {read : Read} {rest : List Read}
    (unread : reader.source.unread = read :: rest)
    (source : after.source = reader.source.advance read rest)
    (same : after.exhausted = reader.exhausted) : budget after ≤ budget reader := by
  simp only [budget, endUnseen, source, same, unread, Source.advance, List.length_cons]
  omega

theorem filled_pays {chunk : List UInt8} {rest : List Read} (waiting : Waiting reader)
    (unread : reader.source.unread = .bytes chunk :: rest) :
    Pays nextLine reader (.again (filled reader chunk rest)) := by
  have pulled : reader.readLine = (filled reader chunk rest).readLine := by
    rw [waiting.reads, unread]
    simp only [pull, readLine, filled, waiting.uncancelled, waiting.unexhausted, Source.advance,
      Bool.false_eq_true, ↓reduceIte]
  have unseen : endUnseen (filled reader chunk rest) = endUnseen reader := rfl
  have bytes : (filled reader chunk rest).pending = reader.pending := by
    simp [pending, filled, Source.unreadSize, Source.advance, unread, Read.size]
    omega
  have left : (filled reader chunk rest).source.unread = rest := rfl
  refine again_pays pulled (budget_advance unread rfl rfl) ?_
  simp only [workLeft, bytes, left, unread, unseen, List.length_cons]
  omega

theorem poll_turn_pays (waiting : Waiting reader) : Pays nextLine reader (pollTurn reader) := by
  have reads := waiting.reads
  unfold pollTurn
  cases unread : reader.source.unread with
  | nil => exact ended_pays waiting unread
  | cons read rest =>
    rw [unread] at reads
    cases read with
    | bytes chunk => exact filled_pays waiting unread
    | failure error => exact telling_pays reads (budget_advance unread rfl rfl) (nothing_owed rfl)
    | stall => exact telling_pays reads (budget_advance unread rfl rfl) (nothing_owed rfl)

/-- Each turn of a call for a line pays what it owes. -/
theorem line_turn_pays (reader : LineReader) : Pays nextLine reader (lineTurn reader) := by
  unfold lineTurn
  split
  · rename_i cancelled
    exact telling_pays (by simp [readLine, cancelled]) (release_budget reader) (nothing_owed rfl)
  · rename_i uncancelled
    rw [Bool.not_eq_true] at uncancelled
    split
    · rename_i split
      exact front_line_pays uncancelled split
    · rename_i split
      split
      · rename_i exhausted
        exact last_line_pays uncancelled split exhausted
      · rename_i unexhausted
        exact poll_turn_pays ⟨uncancelled, split, by simpa using unexhausted⟩

/-- A call for an event goes on to the next line where one carries nothing, and that line has been
handed out to it, so there is less left. -/
theorem event_turn_pays {α : Type} (decode : Decoder α) (reader : LineReader) :
    Pays (nextEvent decode) reader (eventTurn decode reader) := by
  have line := line_turn_pays reader
  cases turned : lineTurn reader with
  | again next =>
    rw [turned] at line
    obtain ⟨same, cheap, less⟩ := line
    have served : reader.nextEvent decode = next.nextEvent decode := by
      rw [next_event_eq, next_event_eq decode next, same]
    simp only [eventTurn, turned]
    exact ⟨served, cheap, less⟩
  | answers answer after =>
    rw [turned] at line
    obtain ⟨read, cheap, less⟩ := line
    have released : budget after.release ≤ budget reader := (release_budget after).trans cheap
    have event := next_event_eq decode reader
    simp only [read] at event
    simp only [eventTurn, turned]
    rcases answer with error | _ | text
    · exact ⟨event, cheap, nothing_owed rfl⟩
    · exact ⟨event, cheap, nothing_owed rfl⟩
    · have handed : workLeft after < workLeft reader := less rfl
      cases carried : payload? text with
      | none =>
        simp only [carried] at event ⊢
        exact ⟨event, cheap, handed⟩
      | some payload =>
        by_cases marker : payload = endMarker
        · simp only [carried, marker, ↓reduceIte] at event ⊢
          exact ⟨event, released, nothing_owed rfl⟩
        · cases decoded : decodeText decode payload with
          | ok content =>
            simp only [carried, marker, ↓reduceIte, decoded] at event ⊢
            exact ⟨event, cheap, fun _ => handed⟩
          | error error =>
            simp only [carried, marker, ↓reduceIte, decoded] at event ⊢
            exact ⟨event, released, nothing_owed rfl⟩

/-- Turns that pay what they owe come to an end with the answer of the call. The induction is on the
work left: each turn that does not answer leaves less of it. -/
theorem loops_of_pays {α : Type} {call : LineReader → Except CallError (Option α) × LineReader}
    {turn : LineReader → Turn α} (pays : ∀ reader, Pays call reader (turn reader))
    (reader : LineReader) :
    ∃ turns ≤ workLeft reader + 1, Loops turn reader turns (call reader) ∧
      budget (call reader).2 ≤ budget reader := by
  induction work : workLeft reader using Nat.strong_induction_on generalizing reader with
  | _ amount ih =>
    have paid := pays reader
    cases turned : turn reader with
    | answers answer after =>
      rw [turned] at paid
      obtain ⟨served, cheap, -⟩ := paid
      rw [served]
      exact ⟨1, by omega, .answers turned, cheap⟩
    | again next =>
      rw [turned] at paid
      obtain ⟨served, cheap, less⟩ := paid
      obtain ⟨turns, few, loops, within⟩ := ih (workLeft next) (work ▸ less) next rfl
      rw [served]
      exact ⟨turns + 1, by omega, .again turned loops, within.trans cheap⟩

/-- Every call comes back, from whatever state its reader is in. -/
theorem call_loops (call : Call) (reader : LineReader) :
    ∃ turns ≤ workLeft reader + 1, Loops (turn call) reader turns (call.serve reader) ∧
      budget (call.serve reader).2 ≤ budget reader := by
  cases call with
  | line => exact loops_of_pays line_turn_pays reader
  | event decode => exact loops_of_pays (event_turn_pays decode) reader

end Turns

section Rooms
variable {reads : List Read} {reader : LineReader}

theorem room_exhausted (exhausted : reader.exhausted = true) : room reader = 0 := if_pos exhausted

/-- Lines that end in a line feed have one each. -/
theorem length_le_feeds {lines : List RawLine} (fed : ∀ line ∈ lines, line.fed = true) :
    lines.length ≤ (lines.flatMap RawLine.bytes).count 10 := by
  induction lines with
  | nil => exact Nat.le_refl 0
  | cons line rest ih =>
    rw [List.forall_mem_cons] at fed
    have first : 1 ≤ line.bytes.count 10 := by simp [RawLine.bytes, fed.1]
    have later := ih fed.2
    simp only [List.flatMap_cons, List.count_append, List.length_cons]
    omega

/-- Lines that have been consumed took a line feed each, except for a tail. -/
theorem room_of_consumes {after : LineReader} {lines : List RawLine}
    (consumes : Consumes reader after lines) (some : lines ≠ []) : room after < room reader := by
  obtain ⟨chunks, unread, -, account⟩ := consumes.bytes
  have unexhausted : reader.exhausted = false := by
    rw [← Bool.not_eq_true]
    exact fun exhausted => some (consumes.spent exhausted).1
  cases exhausted : after.exhausted with
  | true =>
    rw [room_exhausted exhausted, room, unexhausted]
    exact Nat.succ_pos _
  | false =>
    have fed := length_le_feeds (consumes.last exhausted)
    have positive := List.length_pos_of_ne_nil some
    have whole := congrArg (List.count 10) account
    simp only [List.count_append] at whole
    simp only [room, unexhausted, exhausted, Bool.false_eq_true, ↓reduceIte, unread, bytes_append,
      List.count_append]
    omega

/-- A released reader has no room, so letting go of a source makes none. -/
theorem room_of_released {after : LineReader} (held : Held after)
    (released : after.released = true) : room after = 0 :=
  room_exhausted (held.settled.released_exhausted released)

/-- A read that hands something out takes room for it, and nothing that is done with a reader makes
any. -/
theorem perform_room (op : Op) (held : Held reader) :
    (told? op (op.perform reader).1).toList.count .handed + room (op.perform reader).2 ≤
      room reader := by
  cases op with
  | read call =>
    have answered := serve_answered call held
    show (told? (.read call) (call.serve reader).1).toList.count .handed +
      room (call.serve reader).2 ≤ room reader
    cases handed : handsOut (call.serve reader).1 with
    | true =>
      obtain ⟨lines, takes, consumes⟩ := serve_consumes call held handed
      have some : lines ≠ [] := by
        rintro rfl
        have answer := takes.1
        rw [answer] at handed
        cases handed
      have less := room_of_consumes consumes some
      have once : (told? (.read call) (call.serve reader).1).toList.count .handed ≤ 1 :=
        List.count_le_length.trans (by cases told? (.read call) (call.serve reader).1 <;> simp)
      omega
    | false =>
      have released : (call.serve reader).2.released = true := by
        rw [answered.released, handed]
        rfl
      have nothing : (told? (.read call) (call.serve reader).1).toList.count .handed = 0 := by
        cases told : (call.serve reader).1 with
        | error error => rfl
        | ok content =>
          cases content with
          | none => rfl
          | some content => simp [told, handsOut] at handed
      rw [nothing, room_of_released answered.held released]
      exact Nat.zero_le _
  | check =>
    simp only [Op.perform, checkCancelled]
    split
    · simp [told?, room_of_released (release_held held) release_released]
    · simp [told?]
  | release => simp [told?, Op.perform, room_of_released (release_held held) release_released]
  | cancel => simp [told?, Op.perform, LineReader.cancel, room]

/-- All that is handed out in a run fits into the room that there was before it. -/
theorem run_room (ops : List Op) (kept : Kept reads reader) :
    (told (run ops reader).1).count .handed + room (run ops reader).2 ≤ room reader := by
  induction ops generalizing reader with
  | nil => simp [run, told]
  | cons op rest ih =>
    have first := perform_room op kept.held
    have later := ih (perform_kept op kept)
    have behind : (run (op :: rest) reader).2 = (run rest (op.perform reader).2).2 := rfl
    rw [told_cons, List.count_append, behind]
    omega

/-- The bytes that come before a script breaks off are not all that there are on it. -/
theorem feeds_of_bytes (reads : List Read) : (bytesOf reads).count 10 ≤ lineFeeds reads := by
  induction reads with
  | nil => exact Nat.le_refl 0
  | cons read rest ih =>
    cases read with
    | bytes chunk =>
      rw [bytesOf, List.count_append, lineFeeds]
      omega
    | failure error => exact Nat.zero_le _
    | stall => exact Nat.zero_le _

end Rooms

/-- Whatever has been done with a reader, each call on it comes back, after so many turns at most as
it has work left, and with no more polls than there are reads to come and one for the end. And
however long it is read on, no more calls hand something out than there are line feeds on the script,
and one; all others tell the end or a failure, so one call more than that comes to it. -/
theorem calls_return_until_drained (reads : List Read) (cancelled : Bool) (ops : List Op) :
    let done := (run ops (.ofReads reads cancelled)).1
    let reader := (run ops (.ofReads reads cancelled)).2
    (∀ call : Call, ∃ turns ≤ workLeft reader + 1,
        Loops (turn call) reader turns (call.serve reader) ∧
        (call.serve reader).2.source.polls ≤
          reader.source.polls + reader.source.unread.length + 1) ∧
      (told done).count .handed ≤ lineFeeds reads + 1 ∧
      (∀ one ∈ told done, one ≠ .handed → one = .ended ∨ ∃ error, one = .failed error) ∧
      (lineFeeds reads + 1 < (told done).length →
        ∃ one ∈ told done, one = .ended ∨ ∃ error, one = .failed error) := by
  intro done reader
  have start := kept_ofReads reads cancelled
  have others : ∀ one ∈ told done, one ≠ .handed → one = .ended ∨ ∃ error, one = .failed error := by
    intro one _ unhanded
    cases one with
    | handed => exact absurd rfl unhanded
    | ended => exact .inl rfl
    | failed error => exact .inr ⟨error, rfl⟩
  have bounded : (told done).count .handed ≤ lineFeeds reads + 1 := by
    have fits : (told done).count .handed + room reader ≤ (bytesOf reads).count 10 + 1 :=
      run_room ops start
    have feeds := feeds_of_bytes reads
    omega
  refine ⟨fun call => ?_, bounded, others, fun long => ?_⟩
  · obtain ⟨turns, few, loops, within⟩ := call_loops call reader
    have once : endUnseen reader ≤ 1 := by
      unfold endUnseen
      split <;> decide
    refine ⟨turns, few, loops, ?_⟩
    simp only [budget] at within
    omega
  · by_contra none
    have all : ∀ one ∈ told done, Told.handed = one := by
      intro one member
      by_contra unhanded
      exact none ⟨one, member, others one member (Ne.symm unhanded)⟩
    rw [List.count_eq_length.mpr all] at bounded
    omega

/-- Two line feeds in three chunks, one of them empty, and lines that carry nothing: the fourth read
is one too many. -/
theorem reads_of_blank_lines_end :
    let reads : List Read :=
      [.bytes (Text.Utf8.encode "\n"), .bytes [], .bytes (Text.Utf8.encode "data: \nlast")]
    let ops : List Op := [.read .line, .read .line, .read .line, .read (.event Decode.value)]
    lineFeeds reads + 1 < (told (run ops (.ofReads reads false)).1).length ∧
      ∃ one ∈ told (run ops (.ofReads reads false)).1,
        one = .ended ∨ ∃ error, one = .failed error := by
  intro reads ops
  have long : lineFeeds reads + 1 < (told (run ops (.ofReads reads false)).1).length := by
    decide +kernel
  exact ⟨long, (calls_return_until_drained reads false ops).2.2.2 long⟩

end ChatClient.StreamDraining
