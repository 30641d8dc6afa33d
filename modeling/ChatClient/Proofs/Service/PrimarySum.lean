import ChatClient.Proofs.Service.PrimaryChoice

/-! What the deltas of a stream add up to. Each part of the sum has its own rule: all texts are put
together, the first model that is named stays, and the last reason to finish counts. All three look
at the deltas of the primary choice only, and at none of them for more than it brings, so a text may
come in one delta or in many. -/
namespace ChatClient.PrimarySum
open ReplyHistory PrimaryChoice

/-- A delta of the primary choice that brings text and nothing else. -/
structure Bare (delta : Delta) : Prop where
  counts : delta.choiceIndex = 0
  unnamed : delta.model.getD "" = ""
  unfinished : delta.finishReason.getD "" = ""

/-- Some deltas bring the text of one between them. One of them brings all the rest of it. -/
structure Splits (delta : Delta) (pieces : List Delta) : Prop where
  rest : ∃ before text after, pieces = before ++ { delta with content := text } :: after ∧
    ∀ piece ∈ before ++ after, Bare piece
  text : String.join (pieces.map Delta.content) = delta.content

/-- The last reason to finish that some deltas give. An empty one is none. -/
def lastReason (deltas : List Delta) : Option String :=
  ((deltas.filterMap Delta.finishReason).filter (· ≠ "")).getLast?

section Parts
variable {delta : Delta} {sum : Accumulator}

/-- A final delta gives a reason, and that is not empty. -/
theorem reason_of_final (final : delta.isFinal = true) :
    ∃ reason, delta.finishReason = some reason ∧ reason ≠ "" := by
  unfold Delta.isFinal at final
  cases given : delta.finishReason with
  | none => simp [given] at final
  | some reason => exact ⟨reason, rfl, by simpa [given] using final⟩

theorem last_reason_final (rest : List Delta) (final : delta.isFinal = true) :
    lastReason (delta :: rest) = (lastReason rest <|> delta.finishReason) := by
  obtain ⟨reason, given, filled⟩ := reason_of_final final
  simp only [lastReason, List.filterMap_cons_some given, List.filter_cons, filled, ne_eq,
    not_false_eq_true, decide_true, ↓reduceIte, List.getLast?_cons, given]
  cases (rest.filterMap Delta.finishReason |>.filter (· ≠ "")).getLast? <;> rfl

theorem last_reason_open (rest : List Delta) (unfinished : delta.isFinal = false) :
    lastReason (delta :: rest) = lastReason rest := by
  unfold Delta.isFinal at unfinished
  cases given : delta.finishReason with
  | none => simp [lastReason, given]
  | some reason =>
    have empty : reason = "" := by simpa [given] using unfinished
    simp [lastReason, given, empty]

/-- The reason that counts is the last one, also with deltas behind it that give none. -/
theorem reason_after (deltas : List Delta) (sum : Accumulator) :
    (deltas.foldl .push sum).finishReason =
      (lastReason (primary deltas) <|> sum.finishReason) := by
  induction deltas generalizing sum with
  | nil => simp [primary, lastReason]
  | cons delta rest ih =>
    rw [List.foldl_cons, ih]
    by_cases counts : delta.choiceIndex = 0
    · have first : primary (delta :: rest) = delta :: primary rest := by simp [primary, counts]
      rw [push_primary counts, first]
      cases final : delta.isFinal with
      | true =>
        obtain ⟨reason, given, -⟩ := reason_of_final final
        rw [last_reason_final _ final, given]
        cases lastReason (primary rest) <;> rfl
      | false =>
        rw [last_reason_open _ final]
        rfl
    · simp [push_other counts, primary, counts]

/-- A delta that brings text only adds that. -/
theorem push_bare (bare : Bare delta) :
    sum.push delta = { sum with text := sum.text ++ delta.content } := by
  have unnamed : delta.model.filter (fun model => !model.isEmpty) = none := by
    have empty := bare.unnamed
    cases named : delta.model with
    | none => rfl
    | some model => simp_all [Option.filter]
  have unfinished : delta.isFinal = false := by
    rw [← Bool.not_eq_true]
    intro final
    obtain ⟨reason, given, filled⟩ := reason_of_final final
    exact filled (by simpa [given] using bare.unfinished)
  rw [push_primary bare.counts, unnamed, unfinished]
  cases sum.modelId <;> rfl

theorem foldl_bare (pieces : List Delta) (sum : Accumulator) (bare : ∀ piece ∈ pieces, Bare piece) :
    pieces.foldl .push sum =
      { sum with text := sum.text ++ String.join (pieces.map Delta.content) } := by
  induction pieces generalizing sum with
  | nil => simp
  | cons piece rest ih =>
    rw [List.forall_mem_cons] at bare
    rw [List.foldl_cons, push_bare bare.1, ih _ bare.2]
    simp [String.append_assoc]

/-- The pieces of a delta add up to what the delta adds. -/
theorem foldl_split {pieces : List Delta} (counts : delta.choiceIndex = 0)
    (splits : Splits delta pieces) (sum : Accumulator) :
    pieces.foldl .push sum = sum.push delta := by
  obtain ⟨⟨before, text, after, rfl, bare⟩, whole⟩ := splits
  rw [List.forall_mem_append] at bare
  have counted : { delta with content := text }.choiceIndex = 0 := counts
  have kept : { delta with content := text }.isFinal = delta.isFinal := rfl
  rw [List.foldl_append, List.foldl_cons, foldl_bare before _ bare.1, foldl_bare after _ bare.2,
    push_primary counted, push_primary counts, kept, ← whole]
  simp [String.append_assoc]

end Parts

/-- The sum of a stream is that of its primary deltas, whatever other deltas come in between. Its
text is all of their texts in order, its reason the last that they give, and its model the first that
they name, which no later one replaces; so is the turn that it makes. Where a delta comes in pieces,
the sum is the same. -/
theorem sum_follows_primary_choice (deltas : List Delta) (fallback : String) :
    let sum := Accumulator.ofDeltas deltas
    let counted := primary deltas
    (∀ others, primary others = counted → Accumulator.ofDeltas others = sum) ∧
      sum.text = String.join (counted.map Delta.content) ∧
      sum.finishReason = lastReason counted ∧
      sum.modelId = (counted.filterMap Delta.model).find? (· ≠ "") ∧
      (∀ later, sum.modelId.isSome →
        (Accumulator.ofDeltas (deltas ++ later)).modelId = sum.modelId) ∧
      sum.finish fallback = gatheredTurn fallback deltas ∧
      ∀ front delta back pieces, deltas = front ++ delta :: back → delta.choiceIndex = 0 →
        Splits delta pieces → Accumulator.ofDeltas (front ++ pieces ++ back) = sum := by
  intro sum counted
  have model : sum.modelId = (counted.filterMap Delta.model).find? (· ≠ "") :=
    model_after deltas .empty
  refine ⟨fun others same => ?_, ?_, ?_, model, fun later named => ?_, finish_gathers .., ?_⟩
  · calc Accumulator.ofDeltas others = (primary others).foldl .push .empty := foldl_primary ..
      _ = (primary deltas).foldl .push .empty := by rw [same]
      _ = sum := (foldl_primary ..).symm
  · exact (text_after deltas .empty).trans String.empty_append
  · have last : (lastReason counted <|> none) = lastReason counted := by
      cases lastReason counted <;> rfl
    exact (reason_after deltas .empty).trans last
  · obtain ⟨first, given⟩ := Option.isSome_iff_exists.mp named
    have behind := model_after later sum
    rw [given] at behind ⊢
    rw [Accumulator.ofDeltas, List.foldl_append]
    exact behind
  · intro front delta back pieces split counts splits
    have whole : sum = back.foldl .push ((front.foldl .push .empty : Accumulator).push delta) := by
      simp only [sum, Accumulator.ofDeltas, split, List.foldl_append, List.foldl_cons]
    rw [whole, Accumulator.ofDeltas, List.foldl_append, List.foldl_append,
      foldl_split counts splits]

/-- Another choice in between, a model named twice, and a text in three pieces. -/
theorem sum_of_pieces_between_choices :
    let delta : Delta := ⟨0, none, "Hello", some "stop", some "m"⟩
    let pieces : List Delta :=
      [⟨0, none, "He", none, none⟩, ⟨0, none, "l", some "stop", some "m"⟩,
        ⟨0, none, "lo", none, some ""⟩]
    let other : Delta := ⟨1, none, "B", some "length", some "n"⟩
    let later : Delta := ⟨0, none, "!", some "", some "k"⟩
    let deltas : List Delta := [other, delta, other, later]
    (deltas = [other] ++ delta :: [other, later] ∧ delta.choiceIndex = 0 ∧ Splits delta pieces) ∧
      Accumulator.ofDeltas ([other] ++ pieces ++ [other, later]) =
        ⟨"Hello!", some "m", some "stop"⟩ := by
  intro delta pieces other later deltas
  have splits : Splits delta pieces := by
    refine ⟨⟨[⟨0, none, "He", none, none⟩], "l", [⟨0, none, "lo", none, some ""⟩], rfl, ?_⟩,
      by decide⟩
    simp only [List.singleton_append, List.forall_mem_cons]
    exact ⟨⟨rfl, rfl, rfl⟩, ⟨rfl, rfl, rfl⟩, nofun⟩
  have sum := sum_follows_primary_choice deltas "fallback"
  obtain ⟨-, -, -, -, -, -, split⟩ := sum
  refine ⟨⟨rfl, rfl, splits⟩, (split [other] delta [other, later] pieces rfl rfl splits).trans ?_⟩
  decide +kernel

end ChatClient.PrimarySum
