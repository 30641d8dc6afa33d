import ChatClient.Proofs.Stream.Cancellation
import ChatClient.Proofs.Stream.Need

/-! Reading is lazy. Each line and each delta costs the reads that its line needs and no more, a
reader that has let go of its source never comes back to it, and what has not been pulled makes no
difference: scripts that agree on what has been pulled cannot be told apart. -/
namespace ChatClient.Laziness
open Json StreamLines LineReading LineReader StreamCalls StreamPayloads DeltaReading
open StreamRelease Drawing StreamNeed

/-- The items that a line gives a stream of deltas; the marker gives the end. -/
def itemsAt (line : Line) : List Item :=
  if carries line then if isMarker line then [.ended] else itemsOf (chunkOf line) else []

/-- The items on lines of which so many come before, each with the number of its line. -/
def numbered (taken : Nat) (lines : List Line) : List (Item × Nat) :=
  (lines.zipIdx (taken + 1)).flatMap fun (line, number) => (itemsAt line).map (·, number)

/-- A list of numbered items up to the first that closes the stream. -/
def throughClosing : List (Item × Nat) → List (Item × Nat) :=
  through fun found => closes found.1

/-- Whether a script is the same as another as far as that has been pulled, and stops there if the
end has been seen. -/
structure SameSoFar (reads others : List Read) (source : Source) : Prop where
  front : others.take source.pulled = reads.take source.pulled
  last : SawEnd source → others.length = source.pulled

section Lists
variable {taken : Nat} {first : Line} {rest lines : List Line}

private theorem numbered_cons (taken : Nat) (first : Line) (rest : List Line) :
    numbered taken (first :: rest) =
      (itemsAt first).map (·, taken + 1) ++ numbered (taken + 1) rest := by
  simp [numbered, List.zipIdx_cons]

/-- Lines that a call for an event passes over give no items. -/
private theorem numbered_passed {α : Type} {decode : Decoder α}
    (none : ¬ Finds (.event decode) lines) : numbered taken lines = [] := by
  induction lines generalizing taken with
  | nil => rfl
  | cons first rest ih =>
    have later : numbered (taken + 1) rest = [] :=
      ih fun ⟨line, member, acted⟩ => none ⟨line, List.mem_cons_of_mem _ member, acted⟩
    have nothing : itemsAt first = [] := by
      cases first with
      | error error => exact absurd ⟨_, List.mem_cons_self, rfl⟩ none
      | ok text =>
        cases carried : contentOf text with
        | none => simp [itemsAt, carries, carried]
        | some payload =>
          exact absurd ⟨_, List.mem_cons_self, event_acted carried⟩ none
    rw [numbered_cons, nothing, later]
    rfl

/-- What the answer of a call for a chunk says about the items ahead: they come from the line with
this number, and with a chunk they are its deltas before those left. -/
def Tells (ahead left : List (Item × Nat)) (number : Nat) : Except CallError (Option Chunk) → Prop
  | .ok none => ahead = [] ∨ ∃ later, ahead = (.ended, number) :: later
  | .ok (some chunk) => ahead = chunk.deltas.map (.delta ·, number) ++ left
  | .error error => ∃ later, ahead = (.failed (.call error), number) :: later

/-- A call for a chunk takes lines without items and then the one whose items come next. -/
theorem tells_answer (taken : Nat) (lines : List Line) :
    Tells (numbered taken lines)
      (numbered (taken + ((Call.event Chunk.decode).share lines).length)
        ((Call.event Chunk.decode).leaves lines))
      (taken + ((Call.event Chunk.decode).share lines).length)
      ((Call.event Chunk.decode).answer lines) := by
  induction lines generalizing taken with
  | nil => exact .inl rfl
  | cons first rest ih =>
    cases first with
    | error error =>
      rw [answer_acted rfl, share_acted rfl, numbered_cons]
      exact ⟨_, rfl⟩
    | ok text =>
      cases carried : contentOf text with
      | none =>
        have passed : (Call.event Chunk.decode).passes (.ok text) = true := event_passed carried
        have nothing : itemsAt (.ok text) = [] := by simp [itemsAt, carries, carried]
        have behind : taken + ((Call.event Chunk.decode).share rest).length.succ =
            taken + 1 + ((Call.event Chunk.decode).share rest).length := by omega
        rw [answer_passed passed, leaves_passed passed, share_passed passed, List.length_cons,
          behind, numbered_cons, nothing]
        exact ih (taken + 1)
      | some payload =>
        have acted : (Call.event Chunk.decode).passes (.ok text) = false := event_acted carried
        rw [answer_acted acted, leaves_acted acted, share_acted acted, numbered_cons]
        by_cases marker : payload = "[DONE]"
        · have ended : itemsAt (.ok text) = [.ended] := by
            simp [itemsAt, carries, isMarker, carried, marker]
          rw [act_on_marker (marker ▸ carried), ended]
          exact .inr ⟨_, rfl⟩
        · have items : itemsAt (.ok text) = itemsOf (chunkOf (.ok text)) := by
            simp [itemsAt, carries, isMarker, carried, marker]
          cases decoded : decodeText Chunk.decode payload with
          | ok chunk =>
            rw [act_on_event carried marker decoded, items, chunk_of_decoded carried decoded]
            simp [Tells, itemsOf, chunk_deltas, handsOut]
          | error error =>
            rw [act_on_fault carried marker decoded, items, chunk_of_refused carried decoded]
            exact ⟨_, rfl⟩

end Lists

/-- The items that a stream has still to hand out, each with the number of its line. What is queued
comes from the last line taken. -/
def numberedAhead (taken : Nat) (stream : DeltaStream) : List (Item × Nat) :=
  if stream.finished then []
  else throughClosing (stream.queued.map (.delta ·, taken) ++ numbered taken (ahead stream.reader))

/-- A stream that may be asked for more items, with its reader behind so many lines; one that is
over needs nothing of its reader. -/
def Standing (reads : List Read) (taken : Nat) (stream : DeltaStream) : Prop :=
  stream.finished = false → Stands reads taken stream.reader

/-- How one item must be handed out when these are ahead: with no more pulled than its line needs.
-/
structure Lands (reads : List Read) (ahead : List (Item × Nat)) (item : Item)
    (after : DeltaStream) : Prop where
  handed : item = (ahead.head?.map Prod.fst).getD .ended
  needed : ∀ found ∈ ahead.head?, Needed reads found.2 after.reader.source.pulled
  left : ∃ taken, Standing reads taken after ∧ numberedAhead taken after = ahead.tail

section Steps
variable {reads : List Read} {taken : Nat} {reader : LineReader} {stream : DeltaStream}

private theorem finish_standing : Standing reads 0 (.finish reader) := by
  simp [Standing, DeltaStream.finish]

/-- An item with which the stream is over. -/
private theorem finish_lands {item : Item} {number : Nat} {later : List (Item × Nat)}
    (last : closes item = true) (needed : Needed reads number reader.source.pulled) :
    Lands reads (throughClosing ((item, number) :: later)) item (.finish reader) := by
  have only : throughClosing ((item, number) :: later) = [(item, number)] := through_last last
  rw [only]
  refine ⟨rfl, ?_, 0, finish_standing, rfl⟩
  rintro _ ⟨⟩
  exact needed

/-- A delta at hand goes out at no cost: what its line needs had been pulled for the event. -/
private theorem hand_out_lands (delta : Delta) (rest : List Delta)
    (stands : Stands reads taken reader) :
    Lands reads
      (throughClosing
        ((delta :: rest).map (.delta ·, taken) ++ numbered taken (ahead reader)))
      (DeltaStream.handOut reader delta rest).1 (DeltaStream.handOut reader delta rest).2 := by
  have needed := stands.tally.needed
  rw [List.map_cons, List.cons_append]
  simp only [DeltaStream.handOut, LineReader.checkCancelled, stands.going, Bool.false_eq_true,
    ↓reduceIte]
  cases final : delta.isFinal with
  | true => exact finish_lands ((closes_delta delta).trans final) (by simpa using needed)
  | false =>
    have more : throughClosing
        ((.delta delta, taken) :: (rest.map (.delta ·, taken) ++ numbered taken (ahead reader))) =
        (.delta delta, taken) ::
          throughClosing (rest.map (.delta ·, taken) ++ numbered taken (ahead reader)) :=
      through_more ((closes_delta delta).trans final)
    simp only [Bool.false_eq_true, ↓reduceIte, more]
    refine ⟨rfl, ?_, taken, fun _ => stands, rfl⟩
    rintro _ ⟨⟩
    exact needed

/-- A call for a chunk has pulled what the line needs that gives the items ahead, if there are any,
and with a chunk the stream stands behind that line. -/
private theorem event_lands {answer : Except CallError (Option Chunk)} {after : LineReader}
    (stands : Stands reads taken reader) (read : reader.nextEvent Chunk.decode = (answer, after)) :
    ∃ number, Tells (numbered taken (ahead reader)) (numbered number (ahead after)) number answer ∧
      (numbered taken (ahead reader) ≠ [] → Needed reads number after.source.pulled) ∧
      (handsOut answer = true → Stands reads number after) := by
  have told := tells_answer taken (ahead reader)
  have shared := next_event_shares Chunk.decode stands
  obtain ⟨answered, served⟩ := served_of_next_event stands.settled stands.going read
  rw [answered, ← served.left] at told
  rw [read] at shared
  refine ⟨_, told, fun some => ?_, shared.stands⟩
  by_contra unneeded
  exact some (numbered_passed fun found => unneeded (shared.needed found))

/-- Reading on takes lines until one gives items. The lines taken on the way give none. -/
private theorem read_on_lands (stands : Stands reads taken reader) :
    Lands reads (throughClosing (numbered taken (ahead reader)))
      (DeltaStream.readOn reader).1 (DeltaStream.readOn reader).2 := by
  fun_induction DeltaStream.readOn reader generalizing taken with
  | case1 reader error after read =>
    obtain ⟨number, ⟨later, told⟩, needed, -⟩ := event_lands stands read
    rw [told] at needed ⊢
    exact finish_lands rfl (needed (List.cons_ne_nil _ _))
  | case2 reader after read =>
    obtain ⟨number, told, needed, -⟩ := event_lands stands read
    rcases told with none | ⟨later, told⟩
    · rw [none]
      exact ⟨rfl, by simp [throughClosing], 0, finish_standing, rfl⟩
    · rw [told] at needed ⊢
      exact finish_lands rfl (needed (List.cons_ne_nil _ _))
  | case3 reader after chunk read none ih =>
    obtain ⟨number, told, -, standing⟩ := event_lands stands read
    rw [Tells, none, List.map_nil, List.nil_append] at told
    rw [told]
    exact ih (standing rfl)
  | case4 reader chunk after read delta rest listed =>
    obtain ⟨number, told, -, standing⟩ := event_lands stands read
    rw [Tells, listed] at told
    rw [told]
    exact hand_out_lands delta rest (standing rfl)

/-- The next item costs the stream what its line needs. -/
theorem next_lands (standing : Standing reads taken stream) :
    Lands reads (numberedAhead taken stream) stream.next.1 stream.next.2 := by
  unfold DeltaStream.next numberedAhead
  cases finished : stream.finished with
  | true =>
    have nothing : numberedAhead taken stream = [] := by simp [numberedAhead, finished]
    exact ⟨rfl, by simp, taken, standing, nothing⟩
  | false =>
    simp only [Bool.false_eq_true, ↓reduceIte]
    cases stream.queued with
    | nil => exact read_on_lands (standing finished)
    | cons delta rest => exact hand_out_lands delta rest (standing finished)

theorem after_items_land (calls : Nat) (standing : Standing reads taken stream) :
    ∃ number, Standing reads number (afterItems stream calls) ∧
      numberedAhead number (afterItems stream calls) =
        (numberedAhead taken stream).drop calls := by
  induction calls with
  | zero => exact ⟨taken, standing, rfl⟩
  | succ calls ih =>
    obtain ⟨number, standing, left⟩ := ih
    obtain ⟨behind, standing, later⟩ := (next_lands standing).left
    exact ⟨behind, standing, by rw [afterItems, later, left, List.tail_drop]⟩

end Steps

section Released
variable {reader : LineReader}

/-- A reader with nothing more to ask for lets go of its source whatever it is called for, and tells
the end unless it has been cancelled. -/
theorem next_line_exhausted (held : Held reader) (exhausted : reader.exhausted = true) :
    reader.nextLine =
      (if reader.cancelled then .error .cancelled else .ok none, reader.release) := by
  have drained := held.settled.exhausted_drained exhausted
  have split : splitLine? ([] : List UInt8) = none := rfl
  cases stopped : reader.cancelled with
  | true => exact next_line_cancelled stopped
  | false =>
    simp [LineReader.nextLine, LineReader.readLine, LineReader.lastLine, stopped, drained, split,
      exhausted]

theorem serve_exhausted (call : Call) (held : Held reader) (exhausted : reader.exhausted = true) :
    call.serve reader =
      (if reader.cancelled then .error .cancelled else .ok none, reader.release) := by
  have line := next_line_exhausted held exhausted
  cases call with
  | line => exact line
  | event decode =>
    show reader.nextEvent decode = _
    rw [next_event_eq, line]
    cases reader.cancelled <;> rfl

/-- A reader that has let go of its source is not changed by any call. -/
theorem serve_released (call : Call) (held : Held reader) (released : reader.released = true) :
    (call.serve reader).2 = reader := by
  rw [serve_exhausted call held (held.settled.released_exhausted released), LineReader.release,
    if_pos released]

theorem run_released (calls : List Call) (held : Held reader) (released : reader.released = true) :
    (StreamCalls.run calls reader).2 = reader := by
  induction calls with
  | nil => rfl
  | cons call rest ih =>
    have same := serve_released call held released
    simp only [StreamCalls.run, same, ih]

theorem serve_answered (call : Call) (held : Held reader) :
    Answered (call.serve reader).1 (call.serve reader).2 := by
  cases call with
  | line => exact next_line_answered held
  | event decode => exact next_event_answered decode held

theorem run_held (calls : List Call) (held : Held reader) :
    Held (StreamCalls.run calls reader).2 := by
  induction calls generalizing reader with
  | nil => exact held
  | cons call rest ih => exact ih (serve_answered call held).held

/-- A call that hands something out has found a line. Behind one that handed nothing out there is
none that does. -/
theorem run_finds {reads : List Read} {taken : Nat} (calls : List Call) (call : Call)
    (stands : Stands reads taken reader) (held : Held reader)
    (handed : handsOut (call.serve (StreamCalls.run calls reader).2).1 = true) :
    Finds call (leftBy calls (ahead reader)) := by
  induction calls generalizing taken reader with
  | nil =>
    have answered := (serve_served call stands.settled stands.going).1
    refine finds_of_answer fun ended => ?_
    have nothing : (call.serve reader).1 = .ok none := answered.trans ended
    simp [StreamCalls.run, nothing, handsOut] at handed
  | cons earlier rest ih =>
    have answered := serve_answered earlier held
    have left := (serve_served earlier stands.settled stands.going).2.left
    cases told : handsOut (earlier.serve reader).1 with
    | true =>
      have later := ih ((serve_shares earlier stands).stands told) answered.held handed
      rwa [left] at later
    | false =>
      have released : (earlier.serve reader).2.released = true := by simp [answered.released, told]
      have unchanged : (StreamCalls.run (earlier :: rest) reader).2 = (earlier.serve reader).2 :=
        run_released rest answered.held released
      rw [unchanged] at handed
      have same := (serve_answered call answered.held).released
      rw [serve_released call answered.held released, released, handed] at same
      contradiction

end Released

section Agreement
variable {reads others used more : List Read} {reader before after : LineReader}
  {stream : DeltaStream}

/-- What has been drawn by some step of a run stands in front of every script that is the same so
far, and if the end had been seen by then nothing stands behind it. -/
theorem SameSoFar.split (same : SameSoFar reads others after.source)
    (first : Draws (.ofReads reads false) before used) (second : Draws before after more) :
    others = used ++ others.drop before.source.pulled ∧
      (SawEnd before.source → others.drop before.source.pulled = []) := by
  let rest := others.drop after.source.pulled
  have front : others.take after.source.pulled = used ++ more :=
    same.front.trans (first.trans second).take_pulled
  have whole : others = used ++ (more ++ rest) := by
    rw [← List.append_assoc, ← front, List.take_append_drop]
  have counted : before.source.pulled = used.length := first.pulled.trans (Nat.zero_add _)
  have behind : others.drop before.source.pulled = more ++ rest := by
    rw [counted]
    conv_lhs => rw [whole, List.drop_left]
  refine ⟨by rw [behind]; exact whole, fun ended => ?_⟩
  rw [behind]
  refine second.nothing_behind_end (first.fair (fair_ofReads reads)) (fun seen => ?_) ended
  exact List.drop_of_length_le (Nat.le_of_eq (same.last seen))

theorem serve_frugal (call : Call) (reader : LineReader) : Frugal call.serve reader := by
  cases call with
  | line => exact next_line_frugal reader
  | event decode => exact next_event_frugal decode reader

/-- Calls draw what they need and look no further, one after the other as well as each by itself. -/
theorem run_frugal (calls : List Call) (reader : LineReader) :
    Frugal (StreamCalls.run calls) reader := by
  induction calls generalizing reader with
  | nil => exact ⟨[], .refl reader, fun _ _ _ => rfl⟩
  | cons call rest ih =>
    obtain ⟨used, draws, same⟩ := serve_frugal call reader
    obtain ⟨more, later, laterSame⟩ := ih (call.serve reader).2
    refine ⟨used ++ more, draws.trans later, fun fair others closed => ?_⟩
    have between := later.nothing_behind_end (draws.fair fair) closed
    have here := same fair (more ++ others) between
    have there := laterSame (draws.fair fair) others closed
    rw [List.append_assoc]
    simp only [StreamCalls.run, here, there]
    rfl

/-- The same of a stream whose owner may cancel as well. -/
theorem stream_run_draws (acts : List Act) (stream : DeltaStream) :
    ∃ used, Draws stream.reader (StreamRelease.run acts stream).2.reader used ∧
      (Fair stream.reader.source →
        ∀ rest, (SawEnd (StreamRelease.run acts stream).2.reader.source → rest = []) →
          let there := StreamRelease.run acts (streamFacing stream (used ++ rest))
          there.1.map Handed.item = (StreamRelease.run acts stream).1.map Handed.item ∧
            there.2 = streamFacing (StreamRelease.run acts stream).2 rest) := by
  induction acts generalizing stream with
  | nil => exact ⟨[], .refl _, fun _ _ _ => ⟨rfl, rfl⟩⟩
  | cons act rest ih =>
    cases act with
    | cancel =>
      obtain ⟨used, draws, same⟩ := ih stream.cancel
      exact ⟨used, ⟨draws.unread, draws.pulled, draws.fair, draws.ended⟩, same⟩
    | next =>
      obtain ⟨used, draws, same⟩ := next_draws stream
      obtain ⟨more, later, laterSame⟩ := ih stream.next.2
      refine ⟨used ++ more, draws.toDraws.trans later, fun fair others closed => ?_⟩
      have between := later.nothing_behind_end (draws.fair fair) closed
      have here := same fair (more ++ others) between
      obtain ⟨items, last⟩ := laterSame (draws.fair fair) others closed
      rw [List.append_assoc]
      simp only [run_next, here, List.map_cons, items, last, and_self]

theorem run_append (soFar later : List Call) (reader : LineReader) :
    (StreamCalls.run (soFar ++ later) reader).2 =
      (StreamCalls.run later (StreamCalls.run soFar reader).2).2 := by
  induction soFar generalizing reader with
  | nil => rfl
  | cons call rest ih => exact ih _

theorem stream_run_append (soFar later : List Act) (stream : DeltaStream) :
    (StreamRelease.run (soFar ++ later) stream).2 =
      (StreamRelease.run later (StreamRelease.run soFar stream).2).2 := by
  induction soFar generalizing stream with
  | nil => rfl
  | cons act rest ih => cases act <;> exact ih _

/-- Calls on scripts that are the same so far have the same answers, and leave readers that differ
in nothing but the reads behind those pulled. -/
theorem run_agrees (soFar later : List Call)
    (same : SameSoFar reads others
      (StreamCalls.run (soFar ++ later) (.ofReads reads false)).2.source) :
    let here := StreamCalls.run soFar (.ofReads reads false)
    StreamCalls.run soFar (.ofReads others false) =
      (here.1, facing here.2 (others.drop here.2.source.pulled)) := by
  intro here
  obtain ⟨used, first, alike⟩ := run_frugal soFar (.ofReads reads false)
  obtain ⟨more, second, -⟩ := run_frugal later here.2
  rw [run_append] at same
  obtain ⟨whole, closed⟩ := same.split first.toDraws second.toDraws
  have there := alike (fair_ofReads reads) _ closed
  rw [← whole] at there
  exact there

theorem stream_run_agrees (soFar later : List Act)
    (same : SameSoFar reads others
      (StreamRelease.run (soFar ++ later) (.ofReads reads false)).2.reader.source) :
    let here := StreamRelease.run soFar (.ofReads reads false)
    let there := StreamRelease.run soFar (.ofReads others false)
    there.1.map Handed.item = here.1.map Handed.item ∧
      there.2 = streamFacing here.2 (others.drop here.2.reader.source.pulled) := by
  intro here there
  obtain ⟨used, first, alike⟩ := stream_run_draws soFar (.ofReads reads false)
  obtain ⟨more, second, -⟩ := stream_run_draws later here.2
  rw [stream_run_append] at same
  obtain ⟨whole, closed⟩ := same.split first second
  have agree := alike (fair_ofReads reads) _ closed
  rw [← whole] at agree
  exact agree

end Agreement

theorem after_items_owned {stream : DeltaStream} (calls : Nat) (owned : Owned stream) :
    Owned (afterItems stream calls) := by
  induction calls with
  | zero => exact owned
  | succ calls ih => exact (next_leaves ih).owned

theorem after_items_finished {stream : DeltaStream} (finished : stream.finished = true)
    (calls : Nat) : afterItems stream calls = stream := by
  induction calls with
  | zero => rfl
  | succ calls ih => rw [afterItems, ih, next_finished finished]

/-- What laziness is, on one script. -/
structure Lazy (reads : List Read) : Prop where
  /-- Whatever calls came before, one that finds a line has pulled what that line needs. Its number
  is how many lines all the calls have taken. -/
  call_pulls : ∀ (calls : List Call) (call : Call),
    let found := findings (bytesOf reads) (closeOf reads)
    Finds call (leftBy calls found) →
      Needed reads (shares (calls ++ [call]) found).flatten.length
        (StreamCalls.run (calls ++ [call]) (.ofReads reads false)).2.source.pulled
  /-- A call that hands something out is one that finds a line. -/
  call_finds : ∀ (calls : List Call) (call : Call),
    handsOut (call.serve (StreamCalls.run calls (.ofReads reads false)).2).1 = true →
      Finds call (leftBy calls (findings (bytesOf reads) (closeOf reads)))
  /-- Behind a call that hands nothing out none reaches the source, nor changes the reader. -/
  call_last : ∀ (calls : List Call) (call : Call) (later : List Call),
    let before := (StreamCalls.run calls (.ofReads reads false)).2
    handsOut (call.serve before).1 = false →
      (StreamCalls.run later (call.serve before).2).2 = (call.serve before).2
  /-- An item of a stream of deltas has cost what the line needs that it comes from. -/
  item_pulls : ∀ calls : Nat,
    let stream := afterItems (.ofReads reads false) calls
    let item := (throughClosing (numbered 0 (findings (bytesOf reads) (closeOf reads))))[calls]?
    stream.next.1 = (item.map Prod.fst).getD .ended ∧
      ∀ found ∈ item, Needed reads found.2 stream.next.2.reader.source.pulled
  /-- Behind an item that closes it a stream never reaches its source again. -/
  item_last : ∀ calls later : Nat,
    let stream := afterItems (.ofReads reads false) calls
    closes stream.next.1 = true → afterItems stream.next.2 later = stream.next.2
  /-- A line without a line feed, of a script that ends cleanly, needs all the reads there are. -/
  whole : closeOf reads = .clean → extent reads = reads.length
  /-- A script that is the same as far as the calls have pulled cannot be told apart by them, nor
  by any number of them. -/
  calls_agree : ∀ (others : List Read) (soFar later : List Call),
    SameSoFar reads others
        (StreamCalls.run (soFar ++ later) (.ofReads reads false)).2.source →
      let here := StreamCalls.run soFar (.ofReads reads false)
      StreamCalls.run soFar (.ofReads others false) =
        (here.1, facing here.2 (others.drop here.2.source.pulled))
  /-- The same of a stream of deltas, even if its owner cancels. -/
  items_agree : ∀ (others : List Read) (soFar later : List Act),
    SameSoFar reads others
        (StreamRelease.run (soFar ++ later) (.ofReads reads false)).2.reader.source →
      let here := StreamRelease.run soFar (.ofReads reads false)
      let there := StreamRelease.run soFar (.ofReads others false)
      there.1.map Handed.item = here.1.map Handed.item ∧
        there.2 = streamFacing here.2 (others.drop here.2.reader.source.pulled)

/-- Reading is lazy: no line and no delta costs more reads than it needs, nothing is read behind the
last, and what has not been read has no part in what was handed out. -/
theorem reading_is_lazy (reads : List Read) : Lazy reads where
  call_pulls := by
    intro calls call found finds
    have start := stands_ofReads reads
    rw [run_append]
    have needed := run_needed calls call start (by rwa [ahead_ofReads])
    rwa [ahead_ofReads, Nat.zero_add] at needed
  call_finds := by
    intro calls call handed
    have finds := run_finds calls call (stands_ofReads reads) (held_ofReads reads false) handed
    rwa [ahead_ofReads] at finds
  call_last := by
    intro calls call later before nothing
    have answered := serve_answered call (run_held calls (held_ofReads reads false))
    exact run_released later answered.held (answered.released.trans (congrArg Bool.not nothing))
  item_pulls := by
    intro calls stream item
    have start : Standing reads 0 (.ofReads reads false) := fun _ => stands_ofReads reads
    obtain ⟨number, standing, left⟩ := after_items_land calls start
    have lands := next_lands standing
    have all : numberedAhead 0 (.ofReads reads false) =
        throughClosing (numbered 0 (findings (bytesOf reads) (closeOf reads))) := by
      simp [numberedAhead, DeltaStream.ofReads, DeltaStream.ofReader, ahead_ofReads]
    have handed := lands.handed
    have needed := lands.needed
    rw [left, all, List.head?_drop] at handed needed
    exact ⟨handed, needed⟩
  item_last := by
    intro calls later stream last
    have owned := after_items_owned calls (owned_ofReads reads false)
    exact after_items_finished ((next_leaves owned).closed.trans last) later
  whole := extent_of_clean
  calls_agree := fun _ => run_agrees
  items_agree := fun _ => stream_run_agrees

end ChatClient.Laziness
