import ChatClient.Proofs.Service.ReplyReading

/-! Which choice a call results in. Deltas are told apart by the index of their choice, so the sum of
a stream does not depend on the order in which a server lists the choices. A whole reply goes by that
order: it is the choice listed first, and agrees with the sum if that shows what the choice with the
index of the primary one shows. -/
namespace ChatClient.PrimaryChoice
open Http Json ReplyHistory Sending ReplyReading

/-- What a caller is shown of a result. -/
structure Shown where
  text : String
  finishReason : Option String
  deriving DecidableEq

namespace Shown

def ofChoice (choice : Choice) : Shown :=
  ⟨choice.message.content.getD "", choice.finishReason⟩

def ofReply (reply : Reply) : Shown :=
  ⟨reply.text, reply.finishReason⟩

def ofSum (sum : Accumulator) : Shown :=
  ⟨sum.text, sum.finishReason⟩

end Shown

/-- A choice as a stream brings it that does not cut it. -/
def asStreamed (choice : Choice) : StreamChoice :=
  ⟨choice.index, ⟨some choice.message.role, choice.message.content, choice.message.toolCalls⟩,
    choice.finishReason⟩

/-- A whole answer as the one chunk of a stream. -/
def asChunk (answer : ChatResponse) : Chunk :=
  ⟨answer.id, answer.object, answer.created, answer.model, answer.choices.map asStreamed,
    answer.usage⟩

/-- What the choices of an answer add up to, given as one delta each and in their order. -/
def sumOf (answer : ChatResponse) : Accumulator :=
  .ofDeltas (asChunk answer).deltas

/-- A reply shows what the choice shows, and so does the sum of the same answer. -/
structure Picks (answer : ChatResponse) (choice : Choice) (reply : Reply) : Prop where
  whole : .ofReply reply = Shown.ofChoice choice
  streamed : .ofReply reply = Shown.ofSum (sumOf answer)

section Sums
variable {answer : ChatResponse} {zero : Choice}

/-- Deltas of other choices may as well be left out. -/
theorem foldl_primary (deltas : List Delta) (sum : Accumulator) :
    deltas.foldl .push sum = (primary deltas).foldl .push sum := by
  induction deltas generalizing sum with
  | nil => rfl
  | cons delta rest ih =>
    rw [List.foldl_cons, ih]
    by_cases counts : delta.choiceIndex = 0
    · simp [primary, counts]
    · simp [push_other counts, primary, counts]

/-- An index that is listed once picks out one choice. -/
theorem filter_index {choices : List Choice} (distinct : (choices.map Choice.index).Nodup)
    (listed : zero ∈ choices) :
    choices.filter (fun choice => choice.index = zero.index) = [zero] := by
  induction choices with
  | nil => cases listed
  | cons choice rest ih =>
    rw [List.map_cons, List.nodup_cons] at distinct
    obtain ⟨once, others⟩ := distinct
    rcases List.mem_cons.mp listed with rfl | behind
    · have none : rest.filter (fun choice => choice.index = zero.index) = [] := by
        apply List.filter_eq_nil_iff.mpr
        intro other member
        have apart : other.index ≠ zero.index :=
          fun same => once (same ▸ List.mem_map_of_mem member)
        simpa using apart
      simp [none]
    · have apart : choice.index ≠ zero.index :=
        fun same => once (same ▸ List.mem_map_of_mem behind)
      simp [apart, ih others behind]

/-- The sum of an answer is made of its primary choice alone. -/
theorem sum_of_answer (distinct : (answer.choices.map Choice.index).Nodup)
    (listed : zero ∈ answer.choices) (counts : zero.index = primaryChoice) :
    sumOf answer =
      Accumulator.empty.push ((asStreamed zero).toDelta (asChunk answer).namedModel) := by
  have alone : primary (asChunk answer).deltas =
      [(asStreamed zero).toDelta (asChunk answer).namedModel] := by
    have picked := filter_index distinct listed
    rw [counts] at picked
    rw [primary, Chunk.deltas, List.filter_map, asChunk, List.filter_map]
    exact congrArg _ (congrArg _ picked)
  rw [sumOf, Accumulator.ofDeltas, foldl_primary, alone]
  rfl

theorem shown_sum (distinct : (answer.choices.map Choice.index).Nodup)
    (listed : zero ∈ answer.choices) (counts : zero.index = primaryChoice) :
    Shown.ofSum (sumOf answer) =
      ⟨zero.message.content.getD "", zero.finishReason.filter fun reason => !reason.isEmpty⟩ := by
  let delta : Delta := (asStreamed zero).toDelta (asChunk answer).namedModel
  have taken : delta.choiceIndex = 0 := counts
  have final : (if delta.isFinal then delta.finishReason else none) =
      zero.finishReason.filter fun reason => !reason.isEmpty := by
    have given : delta.finishReason = zero.finishReason := rfl
    rw [Delta.isFinal, given]
    cases zero.finishReason <;> simp [Option.filter]
  rw [sum_of_answer distinct listed counts, push_primary taken, Shown.ofSum, ← final]
  simp [Accumulator.empty, delta, StreamChoice.toDelta, asStreamed]

/-- How a server orders the choices makes no difference to what they add up to. -/
theorem sum_of_perm {order : List Choice} (distinct : (answer.choices.map Choice.index).Nodup)
    (listed : zero ∈ answer.choices) (counts : zero.index = primaryChoice)
    (same : order.Perm answer.choices) :
    sumOf { answer with choices := order } = sumOf answer := by
  let reordered : ChatResponse := { answer with choices := order }
  have again : (reordered.choices.map Choice.index).Nodup := (same.map _).nodup_iff.mpr distinct
  have still : zero ∈ reordered.choices := same.mem_iff.mpr listed
  rw [sum_of_answer distinct listed counts]
  exact sum_of_answer again still counts

end Sums

section Replies
variable {service : ChatService} {history : History} {response : Response} {answer : ChatResponse}

/-- A whole reply is made of the answer that its body holds. -/
theorem reply_of_answer (settings : Option Settings) (spoken : history.turns ≠ [])
    (reaches : Reaches service.client.config Client.completions)
    (success : isSuccess response.status = true) (whole : response.ending = .complete)
    (decoded : decodeBytes ChatResponse.decode response.chunks.flatten = .ok answer) :
    (service.reply history settings false (.answered response)).result =
      Reply.ofResponse answer := by
  rw [ChatService.reply, complete_answered settings .chat spoken reaches success whole,
    decode_body_ok_iff.mpr decoded]
  rfl

theorem reply_of_listed {first : Choice} {others : List Choice}
    (listed : answer.choices = first :: others) :
    ∃ reply, Reply.ofResponse answer = .ok reply ∧ Shown.ofReply reply = .ofChoice first := by
  rw [Reply.ofResponse, listed]
  exact ⟨_, rfl, rfl⟩

end Replies

theorem reason_kept_iff (reason : Option String) :
    (reason.filter fun text => !text.isEmpty) = reason ↔ reason ≠ some "" := by
  cases reason with
  | none => simp
  | some text => simp [Option.filter]

/-- The reply to an answer whose choices have indices of their own, one of them that of the primary
choice, shows the choice that is listed first. So it picks the primary choice exactly if both show
the same, with a reason to finish that is not empty: an empty one is none to the sum. The sum itself
does not depend on how the server orders the choices. -/
theorem reply_picks_primary_iff_first_shows_it (service : ChatService) (history : History)
    (settings : Option Settings) (response : Response) (answer : ChatResponse) (zero : Choice)
    (spoken : history.turns ≠ []) (reaches : Reaches service.client.config Client.completions)
    (success : isSuccess response.status = true) (whole : response.ending = .complete)
    (decoded : decodeBytes ChatResponse.decode response.chunks.flatten = .ok answer)
    (distinct : (answer.choices.map Choice.index).Nodup) (listed : zero ∈ answer.choices)
    (counts : zero.index = primaryChoice) :
    ∃ first reply, answer.choices.head? = some first ∧
      (service.reply history settings false (.answered response)).result = .ok reply ∧
      Shown.ofReply reply = .ofChoice first ∧
      (Picks answer zero reply ↔
        Shown.ofChoice first = .ofChoice zero ∧ zero.finishReason ≠ some "") ∧
      ∀ order : List Choice, order.Perm answer.choices →
        sumOf { answer with choices := order } = sumOf answer := by
  obtain ⟨first, others, split⟩ := List.exists_cons_of_ne_nil (List.ne_nil_of_mem listed)
  obtain ⟨reply, made, shows⟩ := reply_of_listed split
  have told := reply_of_answer settings spoken reaches success whole decoded
  have sum := shown_sum distinct listed counts
  refine ⟨first, reply, by rw [split, List.head?_cons], told.trans made, shows, ?_, ?_⟩
  · constructor
    · rintro ⟨primary, streamed⟩
      have kept := primary.symm.trans (streamed.trans sum)
      have reason := congrArg Shown.finishReason kept
      exact ⟨shows.symm.trans primary, (reason_kept_iff _).mp reason.symm⟩
    · rintro ⟨same, given⟩
      have kept : Shown.ofSum (sumOf answer) = .ofChoice zero := by
        rw [sum, (reason_kept_iff _).mpr given]
        rfl
      exact ⟨shows.trans same, (shows.trans same).trans kept.symm⟩
  · exact fun order same => sum_of_perm distinct listed counts same

/-- An answer that lists its primary choice first is picked from alike. -/
theorem primary_picked_where_listed_first :
    let service : ChatService := ⟨.withKey "key", "m"⟩
    let history : History := ⟨[.of .user "Hi"]⟩
    let body := "\x7b\"choices\":[\x7b\"index\":0,\"message\":\x7b\"content\":\"A\"\x7d," ++
      "\"finish_reason\":\"stop\"\x7d,\x7b\"index\":7,\"message\":\x7b\"content\":\"B\"\x7d\x7d]\x7d"
    let response : Response := ⟨200, [Text.Utf8.encode body], .complete⟩
    let zero : Choice := ⟨0, ⟨"", some "A", none⟩, some "stop"⟩
    let other : Choice := ⟨7, ⟨"", some "B", none⟩, none⟩
    let answer : ChatResponse := ⟨"", "", 0, "", [zero, other], none⟩
    (history.turns ≠ [] ∧ Reaches service.client.config Client.completions ∧
      isSuccess response.status = true ∧ response.ending = .complete ∧
      decodeBytes ChatResponse.decode response.chunks.flatten = .ok answer ∧
      (answer.choices.map Choice.index).Nodup ∧ zero ∈ answer.choices ∧ zero.index = primaryChoice) ∧
      ∃ reply, (service.reply history none false (.answered response)).result = .ok reply ∧
        Picks answer zero reply := by
  intro service history body response zero other answer
  have spoken : history.turns ≠ [] := List.cons_ne_nil _ _
  have reaches : Reaches service.client.config Client.completions := reaches_with_key (by decide)
  have decoded : decodeBytes ChatResponse.decode response.chunks.flatten = .ok answer := by
    decide +kernel
  have distinct : (answer.choices.map Choice.index).Nodup := by decide
  have listed : zero ∈ answer.choices := List.mem_cons_self
  obtain ⟨first, reply, head, told, -, picks, -⟩ :=
    reply_picks_primary_iff_first_shows_it service history none response answer zero spoken reaches
      rfl rfl decoded distinct listed rfl
  cases head
  exact ⟨⟨spoken, reaches, rfl, rfl, decoded, distinct, listed, rfl⟩, reply, told,
    picks.mpr ⟨rfl, by decide⟩⟩

/-- The same choices the other way round make a reply of the one that is not primary. -/
theorem other_choice_picked_where_listed_first :
    let service : ChatService := ⟨.withKey "key", "m"⟩
    let history : History := ⟨[.of .user "Hi"]⟩
    let body := "\x7b\"choices\":[\x7b\"index\":7,\"message\":\x7b\"content\":\"B\"\x7d\x7d," ++
      "\x7b\"index\":0,\"message\":\x7b\"content\":\"A\"\x7d,\"finish_reason\":\"stop\"\x7d]\x7d"
    let response : Response := ⟨200, [Text.Utf8.encode body], .complete⟩
    let zero : Choice := ⟨0, ⟨"", some "A", none⟩, some "stop"⟩
    let other : Choice := ⟨7, ⟨"", some "B", none⟩, none⟩
    let answer : ChatResponse := ⟨"", "", 0, "", [other, zero], none⟩
    (decodeBytes ChatResponse.decode response.chunks.flatten = .ok answer ∧
      (answer.choices.map Choice.index).Nodup ∧ zero.index = primaryChoice) ∧
      Shown.ofSum (sumOf answer) = .ofChoice zero ∧
      ∃ reply, (service.reply history none false (.answered response)).result = .ok reply ∧
        Shown.ofReply reply = .ofChoice other ∧ ¬Picks answer zero reply := by
  intro service history body response zero other answer
  have spoken : history.turns ≠ [] := List.cons_ne_nil _ _
  have reaches : Reaches service.client.config Client.completions := reaches_with_key (by decide)
  have decoded : decodeBytes ChatResponse.decode response.chunks.flatten = .ok answer := by
    decide +kernel
  have told := reply_of_answer none spoken reaches rfl rfl decoded
  have distinct : (answer.choices.map Choice.index).Nodup := by decide
  refine ⟨⟨decoded, distinct, rfl⟩, by decide +kernel, _, told, rfl, ?_⟩
  intro picks
  exact absurd picks.whole (by decide)

end ChatClient.PrimaryChoice
