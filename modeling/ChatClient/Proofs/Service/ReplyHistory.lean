import ChatClient.Proofs.Stream.DeltaReading
import ChatClient.Service.Chat

/-! A streamed reply is written to the history at one place only, on the way out of its last poll.
The consumer may stop anywhere before that, and may cancel anywhere: this follows every run that a
consumer can make of it, and says for each what becomes of the history. -/
namespace ChatClient.ReplyHistory
open Http DeltaReading

/-- What a consumer does with a streamed reply. One that does no more has dropped it. -/
inductive Act where
  | poll
  | cancel
  deriving DecidableEq

/-- What has come of a reply: the items handed out, the requests sent for them, and the stream as it
stands. -/
structure Consumed where
  items : List Item
  requests : List Request
  stream : ReplyStream

def consume (stream : ReplyStream) : List Act → Consumed
  | [] => ⟨[], [], stream⟩
  | .cancel :: rest => consume stream.cancel rest
  | .poll :: rest =>
    let (item, requests, after) := stream.poll
    let later := consume after rest
    ⟨item :: later.items, requests ++ later.requests, later.stream⟩

/-- The stream has been polled until it reported its end, and has never handed out a failure. -/
def ReadToEnd (items : List Item) : Prop :=
  .ended ∈ items ∧ ∀ error, .failed error ∉ items

def deltasOf (items : List Item) : List Delta :=
  items.filterMap fun
    | .delta delta => some delta
    | _ => none

/-- The deltas that count: those of the first choice. -/
def primary (deltas : List Delta) : List Delta :=
  deltas.filter fun delta => delta.choiceIndex = 0

/-- The turn that deltas make. The first of them that names a model names it for the turn. -/
def gatheredTurn (fallback : String) (deltas : List Delta) : Turn where
  role := .assistant
  text := String.join ((primary deltas).map Delta.content)
  modelId :=
    let model := (((primary deltas).filterMap Delta.model).find? (· ≠ "")).getD fallback
    if model = "" then none else some model

/-- The next poll after these acts reports the end, in time: nothing but deltas came before it, and
nobody has cancelled by then. -/
structure EndReached (stream : ReplyStream) (before : List Act) : Prop where
  going : stream.cancelled = false
  untouched : .cancel ∉ before
  deltas : ∀ item ∈ (consume stream before).items, ∃ delta, item = .delta delta
  unwritten : (consume stream before).stream.history = stream.history
  reports : (consume stream before).stream.poll.1 = .ended
  uncancelled : (consume stream before).stream.poll.2.2.cancelled = false

section Sums
variable {sum : Accumulator} {delta : Delta}

theorem push_primary (counts : delta.choiceIndex = 0) :
    sum.push delta =
      { text := sum.text ++ delta.content
        modelId := sum.modelId <|> delta.model.filter (fun model => !model.isEmpty)
        finishReason := if delta.isFinal then delta.finishReason else sum.finishReason } := by
  simp [Accumulator.push, primaryChoice, counts]

theorem push_other (other : delta.choiceIndex ≠ 0) : sum.push delta = sum := by
  simp [Accumulator.push, primaryChoice, other]

theorem text_after (deltas : List Delta) (sum : Accumulator) :
    (deltas.foldl .push sum).text =
      sum.text ++ String.join ((primary deltas).map Delta.content) := by
  induction deltas generalizing sum with
  | nil => simp [primary]
  | cons delta rest ih =>
    rw [List.foldl_cons, ih]
    by_cases counts : delta.choiceIndex = 0
    · simp [push_primary counts, primary, counts, String.append_assoc]
    · simp [push_other counts, primary, counts]

theorem model_after (deltas : List Delta) (sum : Accumulator) :
    (deltas.foldl .push sum).modelId =
      (sum.modelId <|> ((primary deltas).filterMap Delta.model).find? (· ≠ "")) := by
  induction deltas generalizing sum with
  | nil => simp [primary]
  | cons delta rest ih =>
    rw [List.foldl_cons, ih]
    by_cases counts : delta.choiceIndex = 0
    · rw [push_primary counts]
      cases named : delta.model with
      | none => simp [primary, counts, named]
      | some model =>
        by_cases empty : model = ""
        · simp [primary, counts, named, empty, Option.filter]
        · cases sum.modelId <;> simp [primary, counts, named, empty]
    · simp [push_other counts, primary, counts]

/-- Adding up the deltas one by one makes the turn that they make together. -/
theorem finish_gathers (deltas : List Delta) (fallback : String) :
    (deltas.foldl .push .empty : Accumulator).finish fallback = gatheredTurn fallback deltas := by
  simp [Accumulator.finish, Turn.byModel, text_after, model_after, gatheredTurn, Accumulator.empty]

end Sums

/-- A completion is read with the token of its caller, so one that is cancelled stays so. -/
theorem poll_keeps_cancelled (completion : CompletionStream)
    (stopped : completion.cancelled = true) : completion.poll.2.2.cancelled = true := by
  have read : ∀ deltas, (completion.readFrom deltas).2.cancelled = true := by
    intro deltas
    have kept := next_keeps_cancelled deltas.cancel rfl
    simp only [CompletionStream.readFrom, stopped, ↓reduceIte]
    split <;> simp_all
  unfold CompletionStream.poll
  cases completion.stage with
  | done => exact stopped
  | reading deltas => exact read deltas
  | unsent =>
    have opened : completion.client.openCompletion completion.request true completion.exchange =
        ⟨.error (.call .cancelled), [], true⟩ := rfl
    simp [stopped, opened]

/-- A reply that is still coming, and what its deltas have added up to. The completion that it reads
shares its token. -/
inductive Gathering (cancelled : Bool) : ReplyStage → Accumulator → Prop where
  | unasked : Gathering cancelled .unasked .empty
  | running (completion : CompletionStream) (sum : Accumulator)
      (shared : completion.cancelled = cancelled) :
      Gathering cancelled (.running completion sum) sum

/-- What every poll leaves as it was. -/
structure Frame (stream after : ReplyStream) : Prop where
  service : after.service = stream.service
  records : after.records = stream.records

/-- How one poll can come out. The history is written only together with the end, and only while
the token is not cancelled. -/
inductive Polled (stream : ReplyStream) (sum : Accumulator) : Item → ReplyStream → Prop where
  | delta (delta : Delta) (after : ReplyStream) (history : after.history = stream.history)
      (kept : after.cancelled = false → stream.cancelled = false)
      (gathering : Gathering after.cancelled after.stage (sum.push delta)) :
      Polled stream sum (.delta delta) after
  | failed (error : ClientError) (after : ReplyStream) (history : after.history = stream.history)
      (finished : after.stage = .done) : Polled stream sum (.failed error) after
  | ended (after : ReplyStream) (going : stream.cancelled = false) (still : after.cancelled = false)
      (written : after.history = stream.history.push (sum.finish stream.service.model))
      (finished : after.stage = .done) : Polled stream sum .ended after

section Steps
variable {stream : ReplyStream} {sum : Accumulator}

theorem poll_frame (stream : ReplyStream) : Frame stream stream.poll.2.2 := by
  have advanced : ∀ completion sum, Frame stream (stream.advance completion sum).2.2 := by
    intro completion sum
    unfold ReplyStream.advance
    repeat' split
    all_goals exact ⟨rfl, rfl⟩
  unfold ReplyStream.poll
  split
  · exact ⟨rfl, rfl⟩
  · exact advanced _ _
  · split
    · exact ⟨rfl, rfl⟩
    · exact advanced _ _

private theorem advance_polled (completion : CompletionStream) (records : stream.records = true)
    (shared : completion.cancelled = stream.cancelled) :
    Polled stream sum (stream.advance completion sum).1 (stream.advance completion sum).2.2 := by
  have kept := poll_keeps_cancelled completion
  unfold ReplyStream.advance
  rcases polled : completion.poll with ⟨item, requests, after⟩
  rw [polled, shared] at kept
  have going : after.cancelled = false → stream.cancelled = false := by
    intro still
    rw [← Bool.not_eq_true]
    intro stopped
    have stays : after.cancelled = true := kept stopped
    rw [still] at stays
    contradiction
  cases item with
  | delta delta => exact .delta delta _ rfl going (.running after _ rfl)
  | failed error => exact .failed error _ rfl rfl
  | ended =>
    simp only [records, ↓reduceIte]
    cases stopped : after.cancelled with
    | true => exact .failed _ _ rfl rfl
    | false => exact .ended _ (going stopped) rfl rfl rfl

/-- One poll of a reply that is still coming. -/
theorem poll_polled (records : stream.records = true)
    (gathering : Gathering stream.cancelled stream.stage sum) :
    Polled stream sum stream.poll.1 stream.poll.2.2 := by
  unfold ReplyStream.poll
  generalize staged : stream.stage = stage at gathering
  cases gathering with
  | unasked =>
    cases ChatRequest.forHistory stream.service.model stream.history stream.settings stream.purpose
        true with
    | error error => exact .failed error _ rfl rfl
    | ok request => exact advance_polled _ records rfl
  | running completion sum shared => exact advance_polled completion records shared

end Steps

/-- The ways in which a whole run can go: the consumer stops while deltas are coming in, or goes on
until a failure, or goes on until the end. Behind either of them there are only further ends. -/
inductive Course (stream : ReplyStream) (sum : Accumulator) (acts : List Act)
    (consumed : Consumed) : Prop where
  | stopped (deltas : List Delta) (items : consumed.items = deltas.map .delta)
      (history : consumed.stream.history = stream.history)
  | failed (deltas : List Delta) (error : ClientError) (later : List Item)
      (items : consumed.items = deltas.map .delta ++ .failed error :: later)
      (ends : ∀ item ∈ later, item = .ended) (history : consumed.stream.history = stream.history)
  | ended (deltas : List Delta) (later : List Item)
      (items : consumed.items = deltas.map .delta ++ .ended :: later)
      (ends : ∀ item ∈ later, item = .ended)
      (written : consumed.stream.history =
        stream.history.push ((deltas.foldl .push sum).finish stream.service.model))
      (before rest : List Act) (split : acts = before ++ .poll :: rest)
      (reached : EndReached stream before)

section Runs
variable {stream : ReplyStream} {sum : Accumulator}

/-- What a consumer does later goes on where it has left the stream. -/
theorem consume_append (stream : ReplyStream) (before later : List Act) :
    consume stream (before ++ later) =
      { items := (consume stream before).items ++ (consume (consume stream before).stream later).items
        requests := (consume stream before).requests ++
          (consume (consume stream before).stream later).requests
        stream := (consume (consume stream before).stream later).stream } := by
  induction before generalizing stream with
  | nil => rfl
  | cons act rest ih =>
    cases act with
    | cancel => exact ih stream.cancel
    | poll => simp only [List.cons_append, consume, ih, List.append_assoc]

/-- A reply goes into the history or not, whatever is done with it. -/
theorem consume_records (stream : ReplyStream) (acts : List Act) :
    (consume stream acts).stream.records = stream.records := by
  induction acts generalizing stream with
  | nil => rfl
  | cons act rest ih =>
    cases act with
    | cancel => exact ih stream.cancel
    | poll => exact (ih stream.poll.2.2).trans (poll_frame stream).records

/-- A finished reply hands out ends only, asks for nothing and leaves the history alone, cancelled or
not. -/
theorem consume_finished (stream : ReplyStream) (acts : List Act) (finished : stream.stage = .done) :
    (consume stream acts).items = .replicate (acts.count .poll) .ended ∧
      (consume stream acts).requests = [] ∧
      (consume stream acts).stream.history = stream.history := by
  induction acts generalizing stream with
  | nil => exact ⟨rfl, rfl, rfl⟩
  | cons act rest ih =>
    cases act with
    | cancel => exact ih stream.cancel (by simp [ReplyStream.cancel, finished])
    | poll =>
      have polled : stream.poll = (.ended, [], stream) := by simp [ReplyStream.poll, finished]
      obtain ⟨items, requests, history⟩ := ih stream finished
      simp only [consume, polled, List.count_cons_self, List.replicate_succ]
      exact ⟨congrArg _ items, requests, history⟩

private theorem finished_ends (stream : ReplyStream) (acts : List Act)
    (finished : stream.stage = .done) : ∀ item ∈ (consume stream acts).items, item = .ended := by
  rw [(consume_finished stream acts finished).1]
  exact fun item => List.eq_of_mem_replicate

/-- Cancelling a reply does not touch what has been gathered, and reaches the completion. -/
theorem cancel_gathering (gathering : Gathering stream.cancelled stream.stage sum) :
    Gathering stream.cancel.cancelled stream.cancel.stage sum := by
  unfold ReplyStream.cancel
  generalize stream.stage = stage at gathering
  cases gathering with
  | unasked => exact .unasked
  | running completion sum shared => exact .running _ _ rfl

/-- An end that is reached behind a delta is reached from in front of it. -/
private theorem reached_behind_delta {delta : Delta} {requests : List Request} {next : ReplyStream}
    {before : List Act} (first : stream.poll = (.delta delta, requests, next))
    (history : next.history = stream.history)
    (kept : next.cancelled = false → stream.cancelled = false) (reached : EndReached next before) :
    EndReached stream (.poll :: before) where
  going := kept reached.going
  untouched := by simp [reached.untouched]
  deltas := by
    simp only [consume, first, List.mem_cons]
    rintro item (rfl | later)
    · exact ⟨delta, rfl⟩
    · exact reached.deltas item later
  unwritten := by
    simp only [consume, first]
    exact reached.unwritten.trans history
  reports := by simpa [consume, first] using reached.reports
  uncancelled := by simpa [consume, first] using reached.uncancelled

/-- Every run of a reply that is still coming goes one of the three ways. Each poll is followed by a
run of the stream that it leaves; once that stream is finished, only ends are left. -/
theorem consume_course (stream : ReplyStream) (acts : List Act) (records : stream.records = true)
    (gathering : Gathering stream.cancelled stream.stage sum) :
    Course stream sum acts (consume stream acts) := by
  induction acts generalizing stream sum with
  | nil => exact .stopped [] rfl rfl
  | cons act rest ih =>
    cases act with
    | cancel =>
      cases ih stream.cancel records (cancel_gathering gathering) with
      | stopped deltas items history => exact .stopped deltas items history
      | failed deltas error later items ends history =>
        exact .failed deltas error later items ends history
      | ended deltas later items ends written before after split reached =>
        -- The end is never reported to a consumer that has cancelled.
        have going := reached.going
        simp [ReplyStream.cancel] at going
    | poll =>
      have polled := poll_polled records gathering
      have frame := poll_frame stream
      rcases first : stream.poll with ⟨item, requests, next⟩
      have consumed : consume stream (.poll :: rest) =
          ⟨item :: (consume next rest).items, requests ++ (consume next rest).requests,
            (consume next rest).stream⟩ := by
        simp only [consume, first]
      rw [first] at polled frame
      rw [consumed]
      cases polled with
      | failed error _ history finished =>
        obtain ⟨-, -, kept⟩ := consume_finished _ rest finished
        have ends := finished_ends _ rest finished
        exact .failed [] error _ rfl ends (kept.trans history)
      | ended _ going still written finished =>
        obtain ⟨-, -, kept⟩ := consume_finished _ rest finished
        have ends := finished_ends _ rest finished
        refine .ended [] _ rfl ends (kept.trans written) [] rest rfl ?_
        exact ⟨going, by simp, by simp [consume], rfl, by simp [consume, first],
          by simpa [consume, first] using still⟩
      | delta delta _ history kept gathering =>
        cases ih _ (frame.records.trans records) gathering with
        | stopped deltas items unwritten =>
          exact .stopped (delta :: deltas) (by simp [items]) (unwritten.trans history)
        | failed deltas error later items ends unwritten =>
          exact .failed (delta :: deltas) error later (by simp [items]) ends
            (unwritten.trans history)
        | ended deltas later items ends written before after split reached =>
          refine .ended (delta :: deltas) later (by simp [items]) ends ?_ (.poll :: before) after
            (by simp [split]) ?_
          · rw [written, history, frame.service]
            rfl
          · exact reached_behind_delta first history kept reached

/-- Of the three ways only one reads to the end without a failure. -/
theorem course_ends {acts : List Act} {consumed : Consumed}
    (course : Course stream sum acts consumed) :
    (ReadToEnd consumed.items ∧
        consumed.stream.history = stream.history.push
          (((deltasOf consumed.items).foldl .push sum).finish stream.service.model) ∧
        ∃ before rest, acts = before ++ .poll :: rest ∧ EndReached stream before) ∨
      (¬ReadToEnd consumed.items ∧ consumed.stream.history = stream.history) := by
  cases course with
  | stopped deltas items history =>
    refine .inr ⟨?_, history⟩
    rintro ⟨ended, -⟩
    simp [items] at ended
  | failed deltas error later items ends history =>
    refine .inr ⟨?_, history⟩
    rintro ⟨-, unfailed⟩
    exact unfailed error (by simp [items])
  | ended deltas later items ends written before rest split reached =>
    have behind : deltasOf later = [] := by
      apply List.filterMap_eq_nil_iff.mpr
      intro item member
      rw [ends item member]
    have found : deltasOf consumed.items = deltas := by
      simp only [deltasOf] at behind ⊢
      simp [items, List.filterMap_append, List.filterMap_map, behind]
    refine .inl ⟨⟨by simp [items], ?_⟩, by rw [found, written], before, rest, split, reached⟩
    intro error member
    simp only [items, List.mem_append, List.mem_map, reduceCtorEq, and_false, exists_false,
      List.mem_cons, false_or] at member
    simpa using ends _ member

end Runs

end ChatClient.ReplyHistory
