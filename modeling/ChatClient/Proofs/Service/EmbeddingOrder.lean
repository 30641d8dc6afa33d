import Mathlib.Data.List.Nodup
import ChatClient.Proofs.Service.Sending
import ChatClient.Service.Embedding

/-! Which vector belongs to which text. The items of an answer come in any order and name the places
of their texts; the service counts the items and sorts them. That puts every vector at the place of
its text if each place is named once, and it is not looked at whether that is so: an answer with the
right number of items is taken whatever places they name. Of the order in which the items came
nothing is left, as long as no two of them name the same place. -/
namespace ChatClient.EmbeddingOrder
open Http Json Sending

/-- The places that the items of an answer name, in the order of the items. -/
def places (answer : EmbeddingsResponse) : List Nat :=
  answer.data.map (·.index.toNat)

/-- Each of so many texts has one item, and every item has a text. -/
structure Covers (answer : EmbeddingsResponse) (count : Nat) : Prop where
  once : (places answer).Nodup
  within : ∀ place ∈ places answer, place < count
  every : ∀ place < count, place ∈ places answer

/-- An embeddings call gets an answer: it is sent, and a success comes back whole. -/
def Answers (service : EmbeddingService) (cancelled : Bool) (exchange : Exchange)
    (answer : EmbeddingsResponse) : Prop :=
  ∃ response, Succeeds service.client.config Client.embeddings cancelled exchange response ∧
    response.ending = .complete ∧
      decodeBytes EmbeddingsResponse.decode response.chunks.flatten = .ok answer

/-- No vector is given to the wrong text: vectors come of an answer that covers the texts only, each
at the place that its item names, and any other answer has the wrong shape. -/
structure Placed (answer : EmbeddingsResponse) (count : Nat)
    (result : Except ClientError (List Vector32)) : Prop where
  covered : ∀ vectors, result = .ok vectors → Covers answer count
  counted : ∀ vectors, result = .ok vectors → vectors.length = count
  placed : ∀ vectors, result = .ok vectors →
    ∀ item ∈ answer.data, vectors[item.index.toNat]? = some item.embedding
  refused : ¬Covers answer count → ∃ fault, result = .error (.shape fault)

section Sorting
variable {answer : EmbeddingsResponse} {count : Nat}

/-- The items as the service puts them. -/
def sorted (answer : EmbeddingsResponse) : List EmbeddingData :=
  answer.data.mergeSort fun a b => a.index ≤ b.index

theorem sorted_perm (answer : EmbeddingsResponse) : (sorted answer).Perm answer.data :=
  List.mergeSort_perm _ _

theorem sorted_places_pairwise (answer : EmbeddingsResponse) :
    ((sorted answer).map (·.index.toNat)).Pairwise (· ≤ ·) := by
  have ordered : (sorted answer).Pairwise fun a b => decide (a.index ≤ b.index) = true := by
    refine List.pairwise_mergeSort ?_ ?_ answer.data
    · intro a b c first second
      rw [decide_eq_true_eq] at first second ⊢
      exact UInt32.le_trans first second
    · intro a b
      rw [Bool.or_eq_true, decide_eq_true_eq, decide_eq_true_eq]
      exact UInt32.le_total a.index b.index
  refine List.pairwise_map.mpr (ordered.imp ?_)
  intro a b le
  exact UInt32.le_iff_toNat_le.mp (of_decide_eq_true le)

theorem Covers.perm (covers : Covers answer count) : (places answer).Perm (List.range count) := by
  rw [List.perm_ext_iff_of_nodup covers.once List.nodup_range]
  intro place
  rw [List.mem_range]
  exact ⟨covers.within place, covers.every place⟩

theorem covers_of_perm (named : (places answer).Perm (List.range count)) : Covers answer count where
  once := named.nodup_iff.mpr List.nodup_range
  within _ member := List.mem_range.mp (named.mem_iff.mp member)
  every _ less := named.mem_iff.mpr (List.mem_range.mpr less)

theorem Covers.length (covers : Covers answer count) : answer.data.length = count := by
  simpa [places] using covers.perm.length_eq

/-- The sorted items of an answer that covers its texts name the places in order. -/
theorem sorted_places (covers : Covers answer count) :
    (sorted answer).map (·.index.toNat) = List.range count := by
  have same : ((sorted answer).map (·.index.toNat)).Perm (List.range count) :=
    ((sorted_perm answer).map _).trans covers.perm
  have ordered : (List.range count).Pairwise (· ≤ ·) :=
    List.pairwise_lt_range.imp Nat.le_of_lt
  exact same.eq_of_pairwise (fun _ _ _ _ => Nat.le_antisymm) (sorted_places_pairwise answer) ordered

/-- So each item stands at the place that it names. -/
theorem sorted_placed (covers : Covers answer count) {item : EmbeddingData}
    (listed : item ∈ answer.data) : (sorted answer)[item.index.toNat]? = some item := by
  obtain ⟨place, found⟩ := List.mem_iff_getElem?.mp ((sorted_perm answer).mem_iff.mpr listed)
  have named : ((sorted answer).map (·.index.toNat))[place]? = some item.index.toNat := by
    rw [List.getElem?_map, found, Option.map_some]
  rw [sorted_places covers] at named
  obtain ⟨within, same⟩ := List.getElem?_eq_some_iff.mp named
  rw [List.getElem_range] at same
  rwa [← same]

/-- Items that name different places are put into one order, whatever order they came in. -/
theorem sorted_of_perm {other : EmbeddingsResponse} (moved : other.data.Perm answer.data)
    (once : (places answer).Nodup) : sorted other = sorted answer := by
  have apart := List.inj_on_of_nodup_map once
  have same : (sorted other).Perm (sorted answer) :=
    ((sorted_perm other).trans moved).trans (sorted_perm answer).symm
  refine same.eq_of_pairwise ?_ (List.pairwise_map.mp (sorted_places_pairwise other))
    (List.pairwise_map.mp (sorted_places_pairwise answer))
  intro a b listed listedThere le ge
  have mine : a ∈ answer.data := moved.mem_iff.mp ((sorted_perm other).mem_iff.mp listed)
  have theirs : b ∈ answer.data := (sorted_perm answer).mem_iff.mp listedThere
  exact apart mine theirs (Nat.le_antisymm le ge)

/-- The number of items is all that is checked. -/
theorem vectors_eq (answer : EmbeddingsResponse) (count : Nat) :
    answer.vectors count =
      if answer.data.length = count then .ok ((sorted answer).map (·.embedding))
      else .error (.shape (.embeddingCount count answer.data.length)) := by
  by_cases same : answer.data.length = count <;> simp [EmbeddingsResponse.vectors, sorted, same]

theorem vectors_of_covered (covers : Covers answer count) :
    answer.vectors count = .ok ((sorted answer).map (·.embedding)) := by
  rw [vectors_eq, if_pos covers.length]

theorem vectors_of_perm {other : EmbeddingsResponse} (moved : other.data.Perm answer.data)
    (once : (places answer).Nodup) : other.vectors count = answer.vectors count := by
  rw [vectors_eq, vectors_eq, sorted_of_perm moved once, moved.length_eq]

/-- Vectors are given to the right texts unless the number of items is right and their places are
not. -/
theorem vectors_placed_iff :
    Placed answer count (answer.vectors count) ↔
      (answer.data.length = count → Covers answer count) := by
  rw [vectors_eq]
  by_cases same : answer.data.length = count
  · rw [if_pos same]
    refine ⟨fun placed _ => placed.covered _ rfl, fun covers => ?_⟩
    have covers := covers same
    refine ⟨fun _ _ => covers, ?_, ?_, fun uncovered => absurd covers uncovered⟩
    · rintro vectors ⟨⟩
      rw [List.length_map, (sorted_perm answer).length_eq, same]
    · rintro vectors ⟨⟩ item listed
      rw [List.getElem?_map, sorted_placed covers listed, Option.map_some]
  · rw [if_neg same]
    refine ⟨fun _ right => absurd right same, fun _ => ⟨?_, ?_, ?_, fun _ => ⟨_, rfl⟩⟩⟩
    all_goals
      rintro vectors ⟨⟩

end Sorting

section Calls
variable {service : EmbeddingService} {texts : List String} {cancelled : Bool}
  {exchange : Exchange} {answer : EmbeddingsResponse}

theorem client_embed_ok_iff (request : EmbeddingsRequest) :
    (service.client.embed request cancelled exchange).result = .ok answer ↔
      Answers service cancelled exchange answer := by
  rw [Client.embed, map_call_ok_iff, request_json_ok_iff]
  rfl

/-- Texts get the vectors of the answer that the call gets. -/
theorem embed_answered (asked : texts ≠ [])
    (answers : Answers service cancelled exchange answer) :
    (service.embed texts cancelled exchange).result = answer.vectors texts.length := by
  have got := (client_embed_ok_iff ⟨service.model, texts⟩).mpr answers
  simp [EmbeddingService.embed, asked, Outcome.bindResult, got, Except.bind]

theorem answers_of_embed_ok (asked : texts ≠ []) {vectors : List Vector32}
    (ok : (service.embed texts cancelled exchange).result = .ok vectors) :
    ∃ answer, Answers service cancelled exchange answer := by
  cases got : (service.client.embed ⟨service.model, texts⟩ cancelled exchange).result with
  | error error =>
    simp [EmbeddingService.embed, asked, Outcome.bindResult, got, Except.bind] at ok
  | ok answer => exact ⟨answer, (client_embed_ok_iff _).mp got⟩

end Calls

/-- Vectors come of an answer only, and none of them is given to the wrong text exactly if the places
of the answer are right whenever their number is. -/
theorem vectors_follow_texts_iff_places_cover (service : EmbeddingService) (texts : List String)
    (cancelled : Bool) (exchange : Exchange) (asked : texts ≠ []) :
    let result := (service.embed texts cancelled exchange).result
    (∀ vectors, result = .ok vectors → ∃ answer, Answers service cancelled exchange answer) ∧
      ∀ answer, Answers service cancelled exchange answer →
        (Placed answer texts.length result ↔
          (answer.data.length = texts.length → Covers answer texts.length)) := by
  intro result
  refine ⟨fun vectors ok => answers_of_embed_ok asked ok, fun answer answers => ?_⟩
  have given : result = answer.vectors texts.length := embed_answered asked answers
  rw [given]
  exact vectors_placed_iff

/-- Two items in the order in which they came back, not that of their texts. -/
theorem vectors_follow_swapped_places :
    let service : EmbeddingService := ⟨.withKey "key", "m"⟩
    let texts := ["first", "second"]
    let one : Vector32 := [Binary.ofInt .single 1]
    let two : Vector32 := [Binary.ofInt .single 2]
    let body := "\x7b\"data\":[\x7b\"embedding\":[2],\"index\":1\x7d," ++
      "\x7b\"embedding\":[1],\"index\":0\x7d]\x7d"
    let exchange : Exchange := .answered ⟨200, [Text.Utf8.encode body], .complete⟩
    let answer : EmbeddingsResponse := ⟨"", "", [⟨"", two, 1⟩, ⟨"", one, 0⟩], "", none⟩
    (texts ≠ [] ∧ Answers service false exchange answer) ∧
      Placed answer 2 (service.embed texts false exchange).result := by
  intro service texts one two body exchange answer
  have asked : texts ≠ [] := List.cons_ne_nil _ _
  have succeeds : Succeeds service.client.config Client.embeddings false exchange
      ⟨200, [Text.Utf8.encode body], .complete⟩ := ⟨rfl, by decide +kernel, rfl, rfl⟩
  have answers : Answers service false exchange answer := ⟨_, succeeds, rfl, by decide +kernel⟩
  have covers : Covers answer 2 := ⟨by decide, by decide, by decide⟩
  have follows := vectors_follow_texts_iff_places_cover service texts false exchange asked
  exact ⟨⟨asked, answers⟩, (follows.2 answer answers).mpr fun _ => covers⟩

/-- An item for a text that is not there gives its vector to the text that is. -/
theorem vector_of_other_text_taken :
    let service : EmbeddingService := ⟨.withKey "key", "m"⟩
    let one : Vector32 := [Binary.ofInt .single 1]
    let body := "\x7b\"data\":[\x7b\"embedding\":[1],\"index\":1\x7d]\x7d"
    let exchange : Exchange := .answered ⟨200, [Text.Utf8.encode body], .complete⟩
    let answer : EmbeddingsResponse := ⟨"", "", [⟨"", one, 1⟩], "", none⟩
    Answers service false exchange answer ∧ ¬Covers answer 1 ∧
      (service.embed ["only"] false exchange).result = .ok [one] ∧
      ¬Placed answer 1 (service.embed ["only"] false exchange).result := by
  intro service one body exchange answer
  have succeeds : Succeeds service.client.config Client.embeddings false exchange
      ⟨200, [Text.Utf8.encode body], .complete⟩ := ⟨rfl, by decide +kernel, rfl, rfl⟩
  have answers : Answers service false exchange answer := ⟨_, succeeds, rfl, by decide +kernel⟩
  have uncovered : ¬Covers answer 1 := by
    intro covers
    exact absurd (covers.within 1 (by decide)) (by decide)
  have taken : (service.embed ["only"] false exchange).result = .ok [one] := by
    rw [embed_answered (List.cons_ne_nil _ _) answers, vectors_eq]
    simp [answer, sorted]
  exact ⟨answers, uncovered, taken, fun placed => uncovered (placed.covered _ taken)⟩

/-- Where the items of an answer name the places of the texts, each once and in any order, every
text gets a vector and every vector stands at the place that its item names; a reordering of items
that name different places is not noticed, and a wrong number of them is refused. For no texts
nothing is sent. -/
theorem vectors_stand_at_their_places (service : EmbeddingService) (texts : List String)
    (cancelled : Bool) (exchange : Exchange) :
    let outcome := service.embed texts cancelled exchange
    (texts = [] → outcome.result = .ok [] ∧ outcome.requests = []) ∧
      (texts ≠ [] → ∀ answer, Answers service cancelled exchange answer →
        ((places answer).Perm (List.range texts.length) →
          ∃ vectors, outcome.result = .ok vectors ∧ vectors.length = texts.length ∧
            ∀ item ∈ answer.data, vectors[item.index.toNat]? = some item.embedding) ∧
        ((places answer).Nodup → ∀ stopped elsewhere other, Answers service stopped elsewhere other →
          other.data.Perm answer.data →
            (service.embed texts stopped elsewhere).result = outcome.result) ∧
        (answer.data.length ≠ texts.length →
          outcome.result =
            .error (.shape (.embeddingCount texts.length answer.data.length)))) := by
  intro outcome
  refine ⟨?_, fun asked answer answers => ?_⟩
  · rintro rfl
    exact ⟨rfl, rfl⟩
  have given : outcome.result = answer.vectors texts.length := embed_answered asked answers
  rw [given]
  refine ⟨fun named => ?_, fun once stopped elsewhere other reordered moved => ?_, fun wrong => ?_⟩
  · have covers := covers_of_perm named
    have counted : ((sorted answer).map (·.embedding)).length = texts.length := by
      rw [List.length_map, (sorted_perm answer).length_eq, covers.length]
    refine ⟨_, vectors_of_covered covers, counted, fun item listed => ?_⟩
    rw [List.getElem?_map, sorted_placed covers listed, Option.map_some]
  · rw [embed_answered asked reordered]
    exact vectors_of_perm moved once
  · rw [vectors_eq, if_neg wrong]

/-- Three items that came with the last text's in front of the first one's. -/
theorem vectors_stand_where_items_came_in_a_circle :
    let service : EmbeddingService := ⟨.withKey "key", "m"⟩
    let texts := ["first", "second", "third"]
    let vector (n : Int) : Vector32 := [Binary.ofInt .single n]
    let body := "\x7b\"data\":[\x7b\"embedding\":[11],\"index\":1\x7d," ++
      "\x7b\"embedding\":[12],\"index\":2\x7d,\x7b\"embedding\":[10],\"index\":0\x7d]\x7d"
    let exchange : Exchange := .answered ⟨200, [Text.Utf8.encode body], .complete⟩
    let answer : EmbeddingsResponse :=
      ⟨"", "", [⟨"", vector 11, 1⟩, ⟨"", vector 12, 2⟩, ⟨"", vector 10, 0⟩], "", none⟩
    (texts ≠ [] ∧ Answers service false exchange answer ∧
        (places answer).Perm (List.range texts.length)) ∧
      (service.embed texts false exchange).result = .ok [vector 10, vector 11, vector 12] := by
  intro service texts vector body exchange answer
  have asked : texts ≠ [] := List.cons_ne_nil _ _
  have succeeds : Succeeds service.client.config Client.embeddings false exchange
      ⟨200, [Text.Utf8.encode body], .complete⟩ := ⟨rfl, by decide +kernel, rfl, rfl⟩
  have answers : Answers service false exchange answer := ⟨_, succeeds, rfl, by decide +kernel⟩
  have named : (places answer).Perm (List.range texts.length) := by decide
  have told := (vectors_stand_at_their_places service texts false exchange).2 asked answer answers
  obtain ⟨vectors, taken, counted, placed⟩ := told.1 named
  obtain ⟨first, second, third, rfl⟩ := List.length_eq_three.mp counted
  have items : second = vector 11 ∧ third = vector 12 ∧ first = vector 10 := by
    simpa [answer] using placed
  obtain ⟨rfl, rfl, rfl⟩ := items
  exact ⟨⟨asked, answers, named⟩, taken⟩

end ChatClient.EmbeddingOrder
