import ChatClient.Proofs.Service.ReplyReading

/-! Bodies that come in whole with success, but do not hold what they should. A whole reply always
blames the shape of such a body, and so does a stream whose events do not decode. A stream takes its
body line by line, though, and a line that is no text is a failure that blames no shape. -/
namespace ChatClient.ShapeFailures
open Http Json Text StreamLines StreamPayloads LineReading DeltaReading ReplyHistory Sending
open ReplyReading

/-- Nothing on these lines ends the stream: no end marker, no failure and no final delta. -/
structure GoesOn (lines : List Line) : Prop where
  unmarked : ∀ line ∈ lines, isMarker line = false
  going : ∀ item ∈ (chunks lines).flatMap itemsOf, closes item = false

/-- A stream with this body is read as far as a line that is no text. -/
def ReachesIllegible (body : List UInt8) : Prop :=
  ∃ (before later : List (List UInt8)) (line : List UInt8),
    lines body .clean = before ++ line :: later ∧ GoesOn (before.map lineText) ∧
      ∀ text, Utf8.encode text ≠ line

/-- Every failure that the stream hands out says that the body has the wrong shape. -/
def BlamesShape (stream : ReplyStream) : Prop :=
  ∀ polls error, .failed error ∈ (consume stream (.replicate polls .poll)).items →
    error.isShapeError = true

section Lines
variable {before later list : List Line} {error : CallError}

theorem chunks_behind (unmarked : ∀ line ∈ before, isMarker line = false) (later : List Line) :
    chunks (before ++ later) = chunks before ++ chunks later := by
  have kept : ∀ line ∈ before.filter carries, (!isMarker line) = true := by
    intro line member
    rw [unmarked line (List.mem_of_mem_filter member)]
    rfl
  simp only [chunks, List.filter_append, List.takeWhile_append_of_pos kept,
    List.takeWhile_eq_self_iff.mpr kept, List.map_append]

/-- What is found behind lines that end nothing comes behind their items. -/
theorem items_behind (goes : GoesOn before) (later : List Line) :
    items (before ++ later) = (chunks before).flatMap itemsOf ++ items later := by
  rw [items, chunks_behind goes.unmarked, List.flatMap_append, through_append goes.going]
  rfl

theorem goes_on_append (goes : GoesOn before) (further : GoesOn later) :
    GoesOn (before ++ later) where
  unmarked line member :=
    (List.mem_append.mp member).elim (goes.unmarked line) (further.unmarked line)
  going := by
    intro item member
    rw [chunks_behind goes.unmarked, List.flatMap_append] at member
    exact (List.mem_append.mp member).elim (goes.going item) (further.going item)

/-- A stream fails where a line does, or over an event that does not decode. -/
theorem failed_of_lines {failure : ClientError}
    (member : .failed failure ∈ (chunks list).flatMap itemsOf) :
    ∃ error, failure = .call error ∧
      (.error error ∈ list ∨ ∃ fault text, error = .badEvent fault text) := by
  obtain ⟨chunk, listed, made⟩ := List.mem_flatMap.mp member
  obtain ⟨line, kept, rfl⟩ := List.mem_map.mp listed
  have given : line ∈ list := List.mem_of_mem_filter ((List.takeWhile_sublist _).subset kept)
  cases line with
  | error error =>
    cases List.mem_singleton.mp made
    exact ⟨error, rfl, .inl given⟩
  | ok text =>
    simp only [chunkOf] at made
    split at made
    · simp [itemsOf] at made
    · cases List.mem_singleton.mp made
      exact ⟨_, rfl, .inr ⟨_, text, rfl⟩⟩

/-- A line of text that ends the stream is the last to be looked at, so it fails over its own event
if it fails. -/
private theorem failed_of_stopping {text : String} {rest : List Line}
    (stops : ¬GoesOn [.ok text]) (member : .failed (.call error) ∈ items (.ok text :: rest)) :
    ∃ fault text, error = .badEvent fault text := by
  cases marked : isMarker (.ok text) with
  | true =>
    have carried : carries (.ok text) = true := by
      have payload : contentOf text = some "[DONE]" := by simpa [isMarker] using marked
      simp [carries, payload]
    rw [items, chunks_marker carried marked] at member
    cases member
  | false =>
    have unmarked : ∀ line ∈ [Except.ok text], isMarker line = false := by simp [marked]
    have joined : chunks (.ok text :: rest) = chunks [.ok text] ++ chunks rest :=
      chunks_behind unmarked rest
    have closing : ∃ item ∈ (chunks [.ok text]).flatMap itemsOf, closes item = true := by
      by_contra none_closes
      exact stops ⟨unmarked, fun item listed => by
        simpa using fun ends => none_closes ⟨item, listed, ends⟩⟩
    rw [items, joined, List.flatMap_append] at member
    obtain ⟨_, same, own | event⟩ := failed_of_lines (mem_front_of_through closing member)
    · simp at own
    · exact ClientError.call.inj same ▸ event

/-- A line that is a failure is the last that a stream looks at. -/
theorem items_failure (error : CallError) (behind : List Line) :
    items (.error error :: behind) = [.failed (.call error)] := by
  rw [items, chunks_carried rfl rfl, List.flatMap_cons]
  exact through_last rfl

/-- A failure that no event raises is handed out where a line behind lines that end nothing is that
failure. -/
theorem failed_item_iff (raised : ∀ fault text, error ≠ .badEvent fault text) :
    .failed (.call error) ∈ items list ↔
      ∃ before later, list = before ++ .error error :: later ∧ GoesOn before := by
  constructor
  · intro member
    induction list with
    | nil => cases member
    | cons first rest ih =>
      cases first with
      | error other =>
        rw [items_failure] at member
        cases List.mem_singleton.mp member
        exact ⟨[], rest, rfl, ⟨nofun, nofun⟩⟩
      | ok text =>
        by_cases goes : GoesOn [.ok text]
        · have split := items_behind goes rest
          rw [List.singleton_append] at split
          rw [split, List.mem_append] at member
          rcases member with own | behind
          · exact absurd (goes.going _ own) nofun
          · obtain ⟨before, later, rfl, further⟩ := ih behind
            exact ⟨.ok text :: before, later, rfl, goes_on_append goes further⟩
        · -- Nothing behind this line is looked at, and it has only its own event to fail over.
          obtain ⟨fault, text, same⟩ := failed_of_stopping goes member
          exact absurd same (raised fault text)
  · rintro ⟨before, later, rfl, goes⟩
    rw [items_behind goes, items_failure]
    simp

/-- That nothing is looked for behind a failure changes no items, for a failure closes anyway. -/
theorem items_through (list : List Line) : items (through Line.isFailure list) = items list := by
  induction list with
  | nil => rfl
  | cons first rest ih =>
    cases first with
    | error error => rw [through_last rfl, items_failure, items_failure]
    | ok text =>
      rw [through_more rfl]
      cases carried : carries (.ok text) with
      | false =>
        simp only [items, chunks_blank carried] at ih ⊢
        exact ih
      | true =>
        cases marked : isMarker (.ok text) with
        | true => simp only [items, chunks_marker carried marked]
        | false =>
          simp only [items, chunks_carried carried marked, List.flatMap_cons] at ih ⊢
          rw [← through_append_through, ih, through_append_through]

end Lines

section Bodies
variable {body : List UInt8}

/-- A line is a failure if it is no text, and of one kind only. -/
theorem illegible_iff (line : List UInt8) :
    (∃ fault, lineText line = .error (.notUtf8 fault)) ↔ ∀ text, Utf8.encode text ≠ line := by
  have read : ∀ text, Utf8.encode text = line ↔ Utf8.decode line = .ok text :=
    fun text => (TextEncoding.decode_ok_iff line text).symm
  simp only [lineText, ne_eq, read]
  cases Utf8.decode line <;> simp

theorem failure_of_line {line : List UInt8} {error : CallError}
    (failed : lineText line = .error error) : ∃ fault, error = .notUtf8 fault := by
  unfold lineText at failed
  split at failed
  · cases failed
  · exact ⟨_, (Except.error.inj failed).symm⟩

/-- A body that comes in whole holds its lines and nothing more. -/
theorem items_of_whole (body : List UInt8) :
    items (findings body .clean) = items ((lines body .clean).map lineText) := by
  rw [findings, items_through, closing, List.append_nil]

/-- A stream hands out that a line is no text exactly if it reads one. -/
theorem reaches_illegible_iff :
    ReachesIllegible body ↔
      ∃ fault, .failed (.call (.notUtf8 fault)) ∈ items (findings body .clean) := by
  have raised : ∀ fault, .failed (.call (.notUtf8 fault)) ∈ items (findings body .clean) ↔
      ∃ before later, (lines body .clean).map lineText = before ++ .error (.notUtf8 fault) :: later ∧
        GoesOn before := by
    intro fault
    rw [items_of_whole]
    exact failed_item_iff nofun
  simp only [raised]
  constructor
  · rintro ⟨before, later, line, split, goes, illegible⟩
    obtain ⟨fault, failed⟩ := (illegible_iff line).mpr illegible
    refine ⟨fault, before.map lineText, later.map lineText, ?_, goes⟩
    rw [split, List.map_append, List.map_cons, failed]
  · rintro ⟨fault, before, later, split, goes⟩
    obtain ⟨front, back, whole, rfl, mapped⟩ := List.map_eq_append_iff.mp split
    obtain ⟨line, rest, rfl, failed, -⟩ := List.map_eq_cons_iff.mp mapped
    exact ⟨front, rest, line, whole, goes, (illegible_iff line).mp ⟨fault, failed⟩⟩

/-- Every other failure blames the shape of the body. -/
theorem shape_of_failed {failure : ClientError} (legible : ¬ReachesIllegible body)
    (member : .failed failure ∈ items (findings body .clean)) : failure.isShapeError = true := by
  have listed := member
  rw [items_of_whole] at listed
  obtain ⟨error, rfl, line | ⟨fault, text, rfl⟩⟩ := failed_of_lines (mem_of_mem_through listed)
  · obtain ⟨bytes, -, failed⟩ := List.mem_map.mp line
    obtain ⟨fault, rfl⟩ := failure_of_line failed
    exact absurd (reaches_illegible_iff.mpr ⟨fault, member⟩) legible
  · rfl

/-- The lines of a text are texts. -/
theorem lines_of_text (text : String) :
    ∀ line ∈ lines (Utf8.encode text) .clean, ∃ own, Utf8.encode own = line := by
  have parts : ∀ part ∈ (Utf8.encode text).splitOn 10, ∃ own, Utf8.encode own = part :=
    TextEncoding.texts_of_parts (by decide) (List.intercalate_splitOn 10).symm
  intro line member
  rcases List.mem_append.mp member with ended | open_
  · obtain ⟨part, listed, rfl⟩ := List.mem_map.mp ended
    obtain ⟨own, same⟩ := parts part ((List.dropLast_sublist _).subset listed)
    rw [unreturned]
    cases found : part.dropSuffix? [13] with
    | none => exact ⟨own, same⟩
    | some front =>
      obtain ⟨suffix, whole, return_⟩ := List.dropSuffix?_eq_some_iff.mp found
      simp only [beq_iff_eq] at return_
      subst return_
      obtain ⟨before, after, left, -⟩ := TextEncoding.texts_of_cut (by decide) (same.trans whole)
      exact ⟨before, left⟩
  · split at open_
    · rw [List.mem_singleton.mp open_]
      exact parts _ (List.getLast_mem _)
    · cases open_

theorem legible_of_text (text : String) : ¬ReachesIllegible (Utf8.encode text) := by
  rintro ⟨before, later, line, split, -, illegible⟩
  obtain ⟨own, same⟩ := lines_of_text text line (by simp [split])
  exact illegible own same

end Bodies

section Calls
variable {response : Response}

theorem reads_of_whole (whole : response.ending = .complete) :
    bytesOf response.reads = response.chunks.flatten ∧ closeOf response.reads = .clean := by
  have script : response.reads = scriptOf response.chunks none := by
    simp [Response.reads, scriptOf, whole]
  rw [script]
  exact ⟨bytes_scriptOf _ _, close_scriptOf _ _⟩

/-- Of a whole reply that fails over a body that came in, the shape of the body is to blame. -/
theorem whole_blames_shape {service : ChatService} {history : History} {purpose : Purpose}
    (settings : Option Settings) (spoken : history.turns ≠ [])
    (reaches : Reaches service.client.config Client.completions)
    (success : isSuccess response.status = true) (whole : response.ending = .complete)
    {error : ClientError}
    (failed : (service.complete history settings purpose false (.answered response)).result =
      .error error) : error.isShapeError = true := by
  rw [complete_answered settings purpose spoken reaches success whole, decodeBody] at failed
  split at failed
  · simp only [Except.mapError, Except.bind, Reply.ofResponse] at failed
    split at failed
    · cases failed
      rfl
    · cases failed
  · cases failed
    rfl

/-- With a poll for each item all of them are handed out. -/
theorem handed_all (list : List Item) : handed list list.length = list := by
  simp [handed]

theorem failed_of_handed {list : List Item} {polls : Nat} {error : ClientError}
    (member : .failed error ∈ handed list polls) : .failed error ∈ list := by
  rcases List.mem_append.mp member with own | ended
  · exact List.mem_of_mem_take own
  · cases List.eq_of_mem_replicate ended

/-- A stream blames the shape of its body for all that it fails over exactly if it reads no line
that is no text. -/
theorem stream_blames_shape_iff (stream : ReplyStream) (unasked : stream.stage = .unasked)
    (going : stream.cancelled = false) (answered : stream.exchange = .answered response)
    (spoken : stream.history.turns ≠ [])
    (reaches : Reaches stream.service.client.config Client.completions)
    (success : isSuccess response.status = true) (whole : response.ending = .complete) :
    BlamesShape stream ↔ ¬ReachesIllegible response.chunks.flatten := by
  have items := fun polls =>
    consume_answered response polls unasked going answered spoken reaches success
  rw [(reads_of_whole whole).1, (reads_of_whole whole).2] at items
  constructor
  · intro blames illegible
    obtain ⟨fault, member⟩ := reaches_illegible_iff.mp illegible
    rw [← handed_all (DeltaReading.items _), ← items] at member
    cases blames _ _ member
  · intro legible polls error member
    rw [items] at member
    exact shape_of_failed legible (failed_of_handed member)

end Calls

/-- Of all that can go wrong over a body that comes in whole with success, a whole reply blames the
shape of the body. So do both kinds of streams exactly if they read no line that is no text, which no
body makes them do that is a text. -/
theorem shape_blamed_alike_iff_lines_legible (service : ChatService) (history : History)
    (prompt : String) (settings : Option Settings) (response : Response)
    (spoken : history.turns ≠ []) (reaches : Reaches service.client.config Client.completions)
    (success : isSuccess response.status = true) (whole : response.ending = .complete) :
    (∀ error, (service.reply history settings false (.answered response)).result = .error error →
        error.isShapeError = true) ∧
      (BlamesShape (service.streamReply history settings false (.answered response)) ↔
        ¬ReachesIllegible response.chunks.flatten) ∧
      (BlamesShape (service.streamAnswer prompt settings false (.answered response)) ↔
        ¬ReachesIllegible response.chunks.flatten) ∧
      ∀ text, Utf8.encode text = response.chunks.flatten →
        ¬ReachesIllegible response.chunks.flatten := by
  have prompted : (ChatService.promptHistory prompt).turns ≠ [] := List.cons_ne_nil _ _
  refine ⟨?_, ?_, ?_, ?_⟩
  · intro error failed
    exact whole_blames_shape settings spoken reaches success whole failed
  · exact stream_blames_shape_iff _ rfl rfl rfl spoken reaches success whole
  · exact stream_blames_shape_iff _ rfl rfl rfl prompted reaches success whole
  · rintro text same
    rw [← same]
    exact legible_of_text text

/-- An event that is cut off in the middle blames the shape of the body, and chunks that are cut in
the middle do not. -/
theorem shape_blamed_for_event_cut_off :
    let service : ChatService := ⟨.withKey "key", "m"⟩
    let history : History := ⟨[.of .user "Hi"]⟩
    let response : Response :=
      ⟨200, [Utf8.encode "data: \x7b\"choic", Utf8.encode "\ndata: [DONE]\n"], .complete⟩
    (history.turns ≠ [] ∧ Reaches service.client.config Client.completions ∧
      isSuccess response.status = true ∧ response.ending = .complete) ∧
      BlamesShape (service.streamReply history none false (.answered response)) := by
  intro service history response
  have spoken : history.turns ≠ [] := List.cons_ne_nil _ _
  have reaches : Reaches service.client.config Client.completions := reaches_with_key (by decide)
  have alike := shape_blamed_alike_iff_lines_legible service history "" none response spoken reaches
    rfl rfl
  have text : Utf8.encode "data: \x7b\"choic\ndata: [DONE]\n" = response.chunks.flatten := by
    decide +kernel
  exact ⟨⟨spoken, reaches, rfl, rfl⟩, alike.2.1.mpr (alike.2.2.2 _ text)⟩

/-- For the same bytes, of which the first is no character, a whole reply blames their shape and
neither stream does. -/
theorem shape_not_blamed_for_illegible_line :
    let service : ChatService := ⟨.withKey "key", "m"⟩
    let history : History := ⟨[.of .user "Hi"]⟩
    let response : Response := ⟨200, [[0xFF, 10]], .complete⟩
    (∃ error, (service.reply history none false (.answered response)).result = .error error ∧
        error.isShapeError = true) ∧
      ¬BlamesShape (service.streamReply history none false (.answered response)) ∧
      ¬BlamesShape (service.streamAnswer "Hi" none false (.answered response)) := by
  intro service history response
  have spoken : history.turns ≠ [] := List.cons_ne_nil _ _
  have reaches : Reaches service.client.config Client.completions := reaches_with_key (by decide)
  have illegible : ReachesIllegible response.chunks.flatten := by
    refine ⟨[], [], [0xFF], by decide +kernel, ⟨nofun, nofun⟩, ?_⟩
    intro text same
    have decoded := (TextEncoding.decode_ok_iff _ _).mpr same
    have refused : (Utf8.decode [0xFF]).toBool = false := by decide +kernel
    rw [decoded] at refused
    cases refused
  have streamed := stream_blames_shape_iff
    (service.streamReply history none false (.answered response)) rfl rfl rfl spoken reaches rfl rfl
  have prompted := stream_blames_shape_iff
    (service.streamAnswer "Hi" none false (.answered response)) rfl rfl rfl spoken reaches rfl rfl
  refine ⟨?_, mt streamed.mp (not_not_intro illegible), mt prompted.mp (not_not_intro illegible)⟩
  cases told : (service.reply history none false (.answered response)).result with
  | error error => exact ⟨error, rfl, whole_blames_shape none spoken reaches rfl rfl told⟩
  | ok reply =>
    have failed : (service.reply history none false (.answered response)).result.toBool = false := by
      decide +kernel
    rw [told] at failed
    cases failed

end ChatClient.ShapeFailures
