import Mathlib.Data.List.Induction
import ChatClient.Proofs.Service.FailureAgreement
import ChatClient.Proofs.Service.ReplyReading

/-! A prompt can be streamed as an answer, or as the reply to a conversation of one turn. The two are
read side by side here, act by act: they wait, read and end together, whoever cancels and whenever,
up to one poll. The one right behind the final delta tells the end of an answer, and that of a reply
too unless the token has been cancelled by then, for a reply looks at the token once more there. -/
namespace ChatClient.PromptStreams
open Http DeltaReading ReplyHistory Sending FailureAgreement ReplyReading StreamCancellation
open StreamRelease (Owned cancel_owned owned_ofReads next_finished next_leaves)

/-- Some poll comes right behind the final delta and with a token that has been cancelled by then. As
a cancelled token lets no delta out, it has been cancelled behind that delta. -/
def CancelsLate (stream : ReplyStream) (acts : List Act) : Prop :=
  ∃ before rest delta, acts = before ++ .poll :: rest ∧ .cancel ∈ before ∧
    (consume stream before).items.getLast? = some (.delta delta) ∧ delta.isFinal = true

/-- A reply to a conversation that has begun, of which nothing has been asked yet. -/
structure Waits (client : Client) (exchange : Exchange) (token : Bool) (stream : ReplyStream) :
    Prop where
  unasked : stream.stage = .unasked
  client : stream.service.client = client
  exchange : stream.exchange = exchange
  token : stream.cancelled = token
  spoken : stream.history.turns ≠ []

/-- A reply that reads these deltas, under this token. -/
def ReadsFrom (deltas : DeltaStream) (token : Bool) (stream : ReplyStream) : Prop :=
  ∃ completion sum, stream.stage = .running completion sum ∧ completion.stage = .reading deltas ∧
    completion.cancelled = token

/-- Two streams that stand at the same place behind this item, with this token. -/
inductive Abreast (token : Bool) : Option Item → ReplyStream → ReplyStream → Prop where
  | unasked (client : Client) (exchange : Exchange) (given : Bool) (left right : ReplyStream)
      (waits : Waits client exchange given left) (waits' : Waits client exchange given right)
      (kept : token = true → given = true) : Abreast token none left right
  | reading (delta : Delta) (deltas : DeltaStream) (left right : ReplyStream)
      (reads : ReadsFrom deltas token left) (reads' : ReadsFrom deltas token right)
      (owned : Owned deltas) (going : deltas.reader.cancelled = false)
      (spent : deltas.finished = delta.isFinal) : Abreast token (some (.delta delta)) left right
  | done (last : Option Item) (left right : ReplyStream) (finished : left.stage = .done)
      (finished' : right.stage = .done) (closed : ∀ delta, last ≠ some (.delta delta)) :
      Abreast token last left right

section Items
variable {token : Bool} {deltas : DeltaStream} {delta : Delta} {error : ClientError}
  {stream after : ReplyStream} {read : Item × DeltaStream} {item : Item}

theorem next_for_finished (finished : deltas.finished = true) :
    nextFor true deltas = (.ended, deltas.cancel) := by
  have still : deltas.cancel.finished = true := finished
  exact next_finished still

theorem next_for_cancelled (unfinished : deltas.finished = false) :
    (nextFor true deltas).1 = .failed (.call .cancelled) := by
  have still : deltas.cancel.finished = false := unfinished
  exact next_stopped still (next_keeps_cancelled deltas.cancel rfl)

/-- Who has cancelled gets no delta. -/
theorem next_for_delta (owned : Owned deltas) (going : deltas.reader.cancelled = false)
    (found : (nextFor token deltas).1 = .delta delta) :
    token = false ∧ (nextFor token deltas).2.reader.cancelled = false ∧
      Owned (nextFor token deltas).2 ∧ (nextFor token deltas).2.finished = delta.isFinal := by
  cases token with
  | true =>
    cases finished : deltas.finished with
    | true =>
      rw [next_for_finished finished] at found
      cases found
    | false => cases found.symm.trans (next_for_cancelled finished)
  | false =>
    have found : deltas.next.1 = .delta delta := found
    have leaves := next_leaves owned
    rw [found] at leaves
    exact ⟨rfl, going_behind_next going (by simp [found]), leaves.owned,
      leaves.closed.trans (closes_delta delta)⟩

/-- An end comes with a cancelled token only if the deltas were over before. -/
theorem next_for_ended (going : deltas.reader.cancelled = false)
    (found : (nextFor token deltas).1 = .ended) :
    (nextFor token deltas).2.reader.cancelled = (token && deltas.finished) := by
  cases token with
  | true =>
    cases finished : deltas.finished with
    | true =>
      rw [next_for_finished finished]
      rfl
    | false => cases found.symm.trans (next_for_cancelled finished)
  | false =>
    have found : deltas.next.1 = .ended := found
    exact going_behind_next going (by simp [found])

theorem advances_delta (advances : Advances stream read item after) (found : read.1 = .delta delta) :
    item = .delta delta ∧ ReadsFrom read.2 read.2.reader.cancelled after := by
  cases advances with
  | delta other _ completion sum given stage reading shared token =>
    cases found.symm.trans given
    exact ⟨rfl, completion, sum, stage, reading, shared.trans token⟩
  | failed _ _ given => cases found.symm.trans given
  | ended _ given => cases found.symm.trans given
  | stopped _ given => cases found.symm.trans given

theorem advances_failed (advances : Advances stream read item after)
    (found : read.1 = .failed error) : item = .failed error ∧ after.stage = .done := by
  cases advances with
  | delta _ _ _ _ given => cases found.symm.trans given
  | failed _ _ given done =>
    cases found.symm.trans given
    exact ⟨rfl, done⟩
  | ended _ given => cases found.symm.trans given
  | stopped _ given => cases found.symm.trans given

/-- Only a reply that is recorded looks at the token once more where its deltas end. -/
theorem advances_ended (advances : Advances stream read item after) (found : read.1 = .ended) :
    item = (if stream.records && read.2.reader.cancelled then .failed (.call .cancelled)
      else .ended) ∧ after.stage = .done := by
  cases advances with
  | delta _ _ _ _ given => cases found.symm.trans given
  | failed _ _ given => cases found.symm.trans given
  | ended _ _ done quiet =>
    refine ⟨?_, done⟩
    rcases quiet with unrecorded | going
    · simp [unrecorded]
    · simp [going]
  | stopped _ _ done records token =>
    exact ⟨by simp [records, token], done⟩

end Items

section Polls
variable {token : Bool} {deltas : DeltaStream} {left right : ReplyStream} {client : Client}
  {exchange : Exchange} {last : Option Item}

/-- One poll of each of two replies that read the same deltas. -/
theorem advance_abreast {completion completion' : CompletionStream} (sum sum' : Accumulator)
    (reads : Reads completion token deltas) (reads' : Reads completion' token deltas)
    (owned : Owned deltas) (going : deltas.reader.cancelled = false)
    (punctual : (token && deltas.finished) = false) :
    (left.advance completion sum).1 = (right.advance completion' sum').1 ∧
      Abreast token (some (right.advance completion' sum').1) (left.advance completion sum).2.2
        (right.advance completion' sum').2.2 := by
  have advances := advance_advances left sum reads
  have advances' := advance_advances right sum' reads'
  cases found : (nextFor token deltas).1 with
  | delta delta =>
    obtain ⟨item, reading⟩ := advances_delta advances found
    obtain ⟨item', reading'⟩ := advances_delta advances' found
    obtain ⟨rfl, still, further, spent⟩ := next_for_delta owned going found
    rw [still] at reading reading'
    rw [item, item']
    exact ⟨rfl, .reading delta _ _ _ reading reading' further still spent⟩
  | failed error =>
    obtain ⟨item, finished⟩ := advances_failed advances found
    obtain ⟨item', finished'⟩ := advances_failed advances' found
    rw [item, item']
    exact ⟨rfl, .done _ _ _ finished finished' (by simp)⟩
  | ended =>
    obtain ⟨item, finished⟩ := advances_ended advances found
    obtain ⟨item', finished'⟩ := advances_ended advances' found
    have still := (next_for_ended going found).trans punctual
    simp only [still, Bool.and_false, Bool.false_eq_true, ↓reduceIte] at item item'
    rw [item, item']
    exact ⟨rfl, .done _ _ _ finished finished' (by simp)⟩

/-- What is read of an answer that waits is read from the start of its body, if a successful one
comes in. -/
theorem poll_answered {response : Response} {stream : ReplyStream}
    (waits : Waits client (.answered response) false stream)
    (reaches : Reaches client.config Client.completions)
    (success : isSuccess response.status = true) :
    ∃ completion sum, Reads completion false (.ofReads response.reads false) ∧
      stream.poll = stream.advance completion sum := by
  obtain ⟨unasked, rfl, answered, going, spoken⟩ := waits
  obtain ⟨request, asked⟩ :=
    request_for_history stream.service.model stream.settings stream.purpose true spoken
  obtain ⟨requests, opened⟩ := open_success request reaches success
  refine ⟨.start stream.service.client request false (.answered response), .empty,
    start_reads opened, ?_⟩
  simp [ReplyStream.poll, unasked, asked, answered, going]

/-- Otherwise it fails as any request of this client does. -/
theorem poll_headless {stream : ReplyStream} (waits : Waits client exchange token stream)
    (headless : Headless client.config Client.completions token exchange) (whole : ChatRequest) :
    ∃ error, (client.complete whole token exchange).result = .error error ∧
      stream.poll.1 = .failed error ∧ stream.poll.2.2.stage = .done := by
  obtain ⟨unasked, rfl, rfl, rfl, spoken⟩ := waits
  obtain ⟨request, asked⟩ :=
    request_for_history stream.service.model stream.settings stream.purpose true spoken
  obtain ⟨error, failed, unopened, -⟩ := asking_fails whole request headless
  refine ⟨error, failed, ?_⟩
  simp [ReplyStream.poll, unasked, asked, ReplyStream.advance, CompletionStream.poll,
    CompletionStream.start, unopened, ReplyStream.finish]

/-- The first poll of each. -/
theorem first_poll_abreast (waits : Waits client exchange token left)
    (waits' : Waits client exchange token right) {stopped : Bool}
    (kept : stopped = true → token = true) :
    left.poll.1 = right.poll.1 ∧
      Abreast stopped (some right.poll.1) left.poll.2.2 right.poll.2.2 := by
  by_cases headless : Headless client.config Client.completions token exchange
  · -- The two requests differ, but both fail as one and the same whole request would.
    obtain ⟨whole, -⟩ :=
      request_for_history left.service.model left.settings left.purpose true waits.spoken
    obtain ⟨error, failed, item, finished⟩ := poll_headless waits headless whole
    obtain ⟨error', failed', item', finished'⟩ := poll_headless waits' headless whole
    cases failed.symm.trans failed'
    rw [item, item']
    exact ⟨rfl, .done _ _ _ finished finished' (by simp)⟩
  · obtain ⟨response, rfl, reaches, rfl, success⟩ : ∃ response,
        Succeeds client.config Client.completions token exchange response := by
      simpa [headless_iff] using headless
    obtain ⟨completion, sum, reads, polled⟩ := poll_answered waits reaches success
    obtain ⟨completion', sum', reads', polled'⟩ := poll_answered waits' reaches success
    have going : stopped = false := by
      rw [← Bool.not_eq_true]
      exact fun cancelled => nomatch kept cancelled
    rw [polled, polled', going]
    exact advance_abreast sum sum' reads reads' (owned_ofReads _ _) rfl rfl

/-- Polls of two streams that stand at the same place hand out the same and leave them at the same
place, if they do not come late. -/
theorem poll_abreast (abreast : Abreast token last left right)
    (punctual : ∀ delta, last = some (.delta delta) → (token && delta.isFinal) = false) :
    left.poll.1 = right.poll.1 ∧
      Abreast token (some right.poll.1) left.poll.2.2 right.poll.2.2 := by
  cases abreast with
  | unasked client exchange given _ _ waits waits' kept =>
    exact first_poll_abreast waits waits' kept
  | reading delta deltas _ _ reads reads' owned going spent =>
    obtain ⟨completion, sum, stage, reading, rfl⟩ := reads
    obtain ⟨completion', sum', stage', reading', same⟩ := reads'
    have polled : left.poll = left.advance completion sum := by simp [ReplyStream.poll, stage]
    have polled' : right.poll = right.advance completion' sum' := by
      simp [ReplyStream.poll, stage']
    have behind := reads_of_reading reading'
    rw [same] at behind
    rw [polled, polled']
    refine advance_abreast sum sum' (reads_of_reading reading) behind owned going ?_
    rw [spent]
    exact punctual delta rfl
  | done _ _ _ finished finished' closed =>
    have polled : left.poll = (.ended, [], left) := by simp [ReplyStream.poll, finished]
    have polled' : right.poll = (.ended, [], right) := by simp [ReplyStream.poll, finished']
    rw [polled, polled']
    exact ⟨rfl, .done _ _ _ finished finished' (by simp)⟩

/-- A late poll tells them apart, and is the last that tells anything. -/
theorem poll_late (records : left.records = true) (unrecorded : right.records = false)
    {delta : Delta} (abreast : Abreast true (some (.delta delta)) left right)
    (final : delta.isFinal = true) :
    left.poll.1 = .failed (.call .cancelled) ∧ left.poll.2.2.stage = .done ∧
      right.poll.1 = .ended ∧ right.poll.2.2.stage = .done := by
  cases abreast with
  | done _ _ _ finished finished' closed => exact absurd rfl (closed delta)
  | reading _ deltas _ _ reads reads' owned going spent =>
    obtain ⟨completion, sum, stage, reading, token⟩ := reads
    obtain ⟨completion', sum', stage', reading', token'⟩ := reads'
    have polled : left.poll = left.advance completion sum := by simp [ReplyStream.poll, stage]
    have polled' : right.poll = right.advance completion' sum' := by
      simp [ReplyStream.poll, stage']
    have advances := advance_advances left sum (reads_of_reading reading)
    have advances' := advance_advances right sum' (reads_of_reading reading')
    rw [token] at advances
    rw [token'] at advances'
    have read := next_for_finished (spent.trans final)
    obtain ⟨item, finished⟩ := advances_ended advances (by rw [read])
    obtain ⟨item', finished'⟩ := advances_ended advances' (by rw [read])
    have cancelled : (nextFor true deltas).2.reader.cancelled = true := by
      rw [read]
      rfl
    simp only [records, cancelled, Bool.and_self, ↓reduceIte] at item
    simp only [unrecorded, Bool.false_and, Bool.false_eq_true, ↓reduceIte] at item'
    rw [polled, polled']
    exact ⟨item, finished, item', finished'⟩

/-- Cancelling moves neither. -/
theorem cancel_abreast (abreast : Abreast token last left right) :
    Abreast true last left.cancel right.cancel := by
  have reads_on : ∀ {deltas stream}, ReadsFrom deltas token stream →
      ReadsFrom deltas true stream.cancel := by
    rintro deltas stream ⟨completion, sum, stage, reading, -⟩
    exact ⟨completion.cancel, sum, by simp [ReplyStream.cancel, stage], reading, rfl⟩
  cases abreast with
  | unasked client exchange given _ _ waits waits' =>
    have waits_on : ∀ {stream : ReplyStream}, Waits client exchange given stream →
        Waits client exchange true stream.cancel :=
      fun waits => ⟨by simp [ReplyStream.cancel, waits.unasked], waits.client, waits.exchange, rfl,
        waits.spoken⟩
    exact .unasked client exchange true _ _ (waits_on waits) (waits_on waits') fun _ => rfl
  | reading delta deltas _ _ reads reads' owned going spent =>
    exact .reading delta deltas _ _ (reads_on reads) (reads_on reads') owned going spent
  | done _ _ _ finished finished' closed =>
    have stays : left.cancel.stage = .done := by simp [ReplyStream.cancel, finished]
    have stays' : right.cancel.stage = .done := by simp [ReplyStream.cancel, finished']
    exact .done _ _ _ stays stays' closed

end Polls

/-- How two runs of the same acts have gone, the second of them on a stream that started as `start`.
They are abreast until a poll comes late, and from there on apart: one has told the cancellation
where the other has told its end, and there are only ends behind that. -/
inductive Runs (start : ReplyStream) (acts : List Act) (left right : Consumed) : Prop where
  | abreast (same : left.items = right.items) (punctual : ¬CancelsLate start acts)
      (pair : Abreast (decide (.cancel ∈ acts)) right.items.getLast? left.stream right.stream)
  | apart (front : List Item) (delta : Delta) (ends : Nat) (late : CancelsLate start acts)
      (last : front.getLast? = some (.delta delta)) (final : delta.isFinal = true)
      (items : left.items = front ++ .failed (.call .cancelled) :: .replicate ends .ended)
      (items' : right.items = front ++ .ended :: .replicate ends .ended)
      (finished : left.stream.stage = .done) (finished' : right.stream.stage = .done)

section Runs
variable {stream left right : ReplyStream} {acts : List Act}

theorem cancels_late_concat (act : Act) :
    CancelsLate stream (acts ++ [act]) ↔
      CancelsLate stream acts ∨ act = .poll ∧ .cancel ∈ acts ∧
        ∃ delta, (consume stream acts).items.getLast? = some (.delta delta) ∧
          delta.isFinal = true := by
  constructor
  · rintro ⟨before, rest, delta, split, cancelled, last, final⟩
    rcases List.eq_nil_or_concat rest with rfl | ⟨rest, other, rfl⟩
    · obtain ⟨rfl, same⟩ := List.append_inj' split rfl
      exact .inr ⟨List.singleton_inj.mp same, cancelled, delta, last, final⟩
    · have longer : acts ++ [act] = (before ++ .poll :: rest) ++ [other] := by simp [split]
      obtain ⟨rfl, -⟩ := List.append_inj' longer rfl
      exact .inl ⟨before, rest, delta, rfl, cancelled, last, final⟩
  · rintro (⟨before, rest, delta, rfl, found⟩ | ⟨rfl, cancelled, delta, found⟩)
    · exact ⟨before, rest ++ [act], delta, by simp, found⟩
    · exact ⟨acts, [], delta, rfl, cancelled, found⟩

theorem consume_poll_last (stream : ReplyStream) (acts : List Act) :
    (consume stream (acts ++ [.poll])).items =
        (consume stream acts).items ++ [(consume stream acts).stream.poll.1] ∧
      (consume stream (acts ++ [.poll])).stream = (consume stream acts).stream.poll.2.2 := by
  simp [consume_append, consume]

theorem consume_cancel_last (stream : ReplyStream) (acts : List Act) :
    (consume stream (acts ++ [.cancel])).items = (consume stream acts).items ∧
      (consume stream (acts ++ [.cancel])).stream = (consume stream acts).stream.cancel := by
  simp [consume_append, consume]

/-- One more cancellation. -/
private theorem runs_cancel (runs : Runs right acts (consume left acts) (consume right acts)) :
    Runs right (acts ++ [.cancel]) (consume left (acts ++ [.cancel]))
      (consume right (acts ++ [.cancel])) := by
  obtain ⟨items, state⟩ := consume_cancel_last left acts
  obtain ⟨items', state'⟩ := consume_cancel_last right acts
  have asks : CancelsLate right (acts ++ [.cancel]) ↔ _ := cancels_late_concat .cancel
  cases runs with
  | abreast same punctual pair =>
    refine .abreast ?_ ?_ ?_
    · rw [items, items', same]
    · simpa [asks] using punctual
    · rw [items', state, state']
      simpa using cancel_abreast pair
  | apart front delta ends late last final found found' finished finished' =>
    refine .apart front delta ends (asks.mpr (.inl late)) last final ?_ ?_ ?_ ?_
    · rw [items, found]
    · rw [items', found']
    · rw [state]
      simp [ReplyStream.cancel, finished]
    · rw [state']
      simp [ReplyStream.cancel, finished']

/-- One more poll. Two runs that are abreast part where it comes late, and nowhere else. -/
private theorem runs_poll (records : left.records = true) (unrecorded : right.records = false)
    (runs : Runs right acts (consume left acts) (consume right acts)) :
    Runs right (acts ++ [.poll]) (consume left (acts ++ [.poll]))
      (consume right (acts ++ [.poll])) := by
  obtain ⟨items, state⟩ := consume_poll_last left acts
  obtain ⟨items', state'⟩ := consume_poll_last right acts
  have asks : CancelsLate right (acts ++ [.poll]) ↔ _ := cancels_late_concat .poll
  cases runs with
  | apart front delta ends late last final found found' finished finished' =>
    have polled : (consume left acts).stream.poll = (.ended, [], (consume left acts).stream) := by
      simp [ReplyStream.poll, finished]
    have polled' : (consume right acts).stream.poll = (.ended, [], (consume right acts).stream) := by
      simp [ReplyStream.poll, finished']
    refine .apart front delta (ends + 1) (asks.mpr (.inl late)) last final ?_ ?_ ?_ ?_
    · simp [items, found, polled, List.replicate_succ']
    · simp [items', found', polled', List.replicate_succ']
    · rw [state, polled]
      exact finished
    · rw [state', polled']
      exact finished'
  | abreast same punctual pair =>
    -- Up to here no poll came late, so if one does now it is this one.
    by_cases late : CancelsLate right (acts ++ [.poll])
    · obtain ⟨-, cancelled, delta, last, final⟩ := (asks.mp late).resolve_left punctual
      have leftRecords := (consume_records left acts).trans records
      have rightRecords := (consume_records right acts).trans unrecorded
      rw [last, decide_eq_true cancelled] at pair
      obtain ⟨item, finished, item', finished'⟩ := poll_late leftRecords rightRecords pair final
      refine .apart (consume right acts).items delta 0 late last final ?_ ?_ ?_ ?_
      · rw [items, same, item, List.replicate_zero]
      · rw [items', item', List.replicate_zero]
      · rw [state, finished]
      · rw [state', finished']
    · have prompt : ∀ delta, (consume right acts).items.getLast? = some (.delta delta) →
          (decide (.cancel ∈ acts) && delta.isFinal) = false := by
        intro delta last
        rw [← Bool.not_eq_true, Bool.and_eq_true, decide_eq_true_eq]
        rintro ⟨cancelled, final⟩
        exact late (asks.mpr (.inr ⟨rfl, cancelled, delta, last, final⟩))
      obtain ⟨alike, further⟩ := poll_abreast pair prompt
      refine .abreast ?_ late ?_
      · rw [items, items', same, alike]
      · rw [items', state, state', List.getLast?_concat]
        simpa using further

/-- Two streams that wait for the same run abreast until a poll comes late. The induction takes one
more act at the end, for whether a poll comes late is up to the acts before it. -/
theorem runs_of_waits {client : Client} {exchange : Exchange} {token : Bool}
    (records : left.records = true) (unrecorded : right.records = false)
    (waits : Waits client exchange token left) (waits' : Waits client exchange token right)
    (acts : List Act) : Runs right acts (consume left acts) (consume right acts) := by
  induction acts using List.reverseRecOn with
  | nil =>
    refine .abreast rfl ?_ (.unasked client exchange token _ _ waits waits' nofun)
    rintro ⟨before, rest, delta, split, -⟩
    simp at split
  | append_singleton acts act ih =>
    cases act with
    | cancel => exact runs_cancel ih
    | poll => exact runs_poll records unrecorded ih

end Runs

/-- The two streams of a prompt. -/
theorem prompt_runs (service : ChatService) (prompt : String) (settings : Option Settings)
    (cancelled : Bool) (exchange : Exchange) (acts : List Act) :
    Runs (service.streamAnswer prompt settings cancelled exchange) acts
      (consume (service.streamReply ⟨[.of .user prompt]⟩ settings cancelled exchange) acts)
      (consume (service.streamAnswer prompt settings cancelled exchange) acts) := by
  have spoken : [Turn.of .user prompt] ≠ [] := List.cons_ne_nil _ _
  exact runs_of_waits rfl rfl (⟨rfl, rfl, rfl, rfl, spoken⟩ : Waits service.client exchange cancelled _)
    ⟨rfl, rfl, rfl, rfl, spoken⟩ acts

/-- A prompt that is streamed as an answer and as the reply to a conversation of its own hands out
the same items, however often it is polled and whenever it is cancelled, exactly if no poll comes
late. Where one does, the reply hands out the cancellation in place of the answer's end. -/
theorem prompt_streams_agree_iff_none_late (service : ChatService) (prompt : String)
    (settings : Option Settings) (cancelled : Bool) (exchange : Exchange) (acts : List Act) :
    let start := service.streamAnswer prompt settings cancelled exchange
    let answer := (consume start acts).items
    let reply :=
      (consume (service.streamReply ⟨[.of .user prompt]⟩ settings cancelled exchange) acts).items
    (reply = answer ↔ ¬CancelsLate start acts) ∧
      (CancelsLate start acts → ∃ front delta ends,
        front.getLast? = some (.delta delta) ∧ delta.isFinal = true ∧
          reply = front ++ .failed (.call .cancelled) :: .replicate ends .ended ∧
          answer = front ++ .ended :: .replicate ends .ended) := by
  intro start answer reply
  cases prompt_runs service prompt settings cancelled exchange acts with
  | abreast same punctual pair =>
    exact ⟨⟨fun _ => punctual, fun _ => same⟩, fun late => absurd late punctual⟩
  | apart front delta ends late last final items items' finished finished' =>
    have told : reply = front ++ .failed (.call .cancelled) :: .replicate ends .ended := items
    have told' : answer = front ++ .ended :: .replicate ends .ended := items'
    refine ⟨⟨fun same => ?_, fun punctual => absurd late punctual⟩,
      fun _ => ⟨front, delta, ends, last, final, told, told'⟩⟩
    rw [told, told'] at same
    simp at same

/-- One delta that is final, and a token that is cancelled right behind it. -/
theorem prompt_streams_differ_behind_final_delta :
    let service : ChatService := ⟨.withKey "key", "m"⟩
    let event := "data: \x7b\"choices\":[\x7b\"index\":0,\"delta\":\x7b\"content\":\"A\"\x7d," ++
      "\"finish_reason\":\"stop\"\x7d]\x7d\n"
    let exchange : Exchange := .answered ⟨200, [Text.Utf8.encode event], .complete⟩
    let delta : Delta := ⟨0, none, "A", some "stop", none⟩
    let acts : List Act := [.poll, .cancel, .poll]
    (consume (service.streamReply ⟨[.of .user "Hi"]⟩ none false exchange) acts).items =
        [.delta delta, .failed (.call .cancelled)] ∧
      (consume (service.streamAnswer "Hi" none false exchange) acts).items =
        [.delta delta, .ended] := by
  intro service event exchange delta acts
  let response : Response := ⟨200, [Text.Utf8.encode event], .complete⟩
  have reaches : Reaches service.client.config Client.completions := reaches_with_key (by decide)
  have body : items (StreamLines.findings (StreamLines.bytesOf response.reads)
      (StreamLines.closeOf response.reads)) = [.delta delta] := by decide +kernel
  let start := service.streamAnswer "Hi" none false exchange
  have first : (consume start [.poll, .cancel]).items = [.delta delta] := by
    have polled := consume_answered response 1 (rfl : start.stage = .unasked) rfl rfl
      (List.cons_ne_nil _ _) reaches rfl
    rw [body] at polled
    exact (consume_cancel_last start [.poll]).1.trans polled
  have late : CancelsLate start acts :=
    ⟨[.poll, .cancel], [], delta, rfl, by decide, by rw [first]; rfl, by decide⟩
  cases prompt_runs service "Hi" none false exchange acts with
  | abreast _ punctual => exact absurd late punctual
  | apart front final ends _ last _ items items' =>
    have two := (consume_poll_last start [.poll, .cancel]).1
    rw [first] at two
    have handed : front ++ .ended :: .replicate ends .ended = _ := items'.symm.trans two
    obtain ⟨rfl, rfl⟩ : front = [.delta delta] ∧ ends = 0 := by
      rcases front with _ | ⟨item, _ | ⟨other, rest⟩⟩
      · cases last
      · simp at handed
        exact ⟨by rw [handed.1], handed.2.2⟩
      · simp at handed
    exact ⟨items, items'⟩

end ChatClient.PromptStreams
