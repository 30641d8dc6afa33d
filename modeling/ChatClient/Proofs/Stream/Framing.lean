import ChatClient.Proofs.Stream.Cancellation
import ChatClient.Proofs.Text.Trimming

/-! How the lines of a stream are framed makes no difference to the events on it. A payload may stand
behind a mark or not, with blanks around it, its line may end in either way or in none, and lines that
carry nothing may come in between. Each of these is taken away in a place of its own; here each line
is shown to have one payload whatever is taken away first, and the calls for events to see nothing
but the payloads. -/
namespace ChatClient.StreamFraming
open Json LineReader StreamLines LineReading StreamCalls StreamPayloads Text Trimming TextEncoding

/-- Blanks that do not end a line. -/
def IsSpace (text : String) : Prop :=
  ∀ c ∈ text.toList, isBlank c = true ∧ c ≠ '\n'

/-- Whether a text can be the payload of a line, and is told apart from its frame. -/
structure IsPayload (payload : String) : Prop where
  filled : payload ≠ ""
  trimmed : trim payload = payload
  oneLine : '\n' ∉ payload.toList
  unmarked : ¬"data:".toList <+: payload.toList

/-- The lines that carry a payload, and those that carry none. -/
inductive Frames : Option String → String → Prop where
  | blank (space : String) (free : IsSpace space) : Frames none space
  | mark (space : String) (free : IsSpace space) : Frames none ("data: " ++ space)
  | bare (payload before after : String) (freeBefore : IsSpace before) (freeAfter : IsSpace after) :
      Frames (some payload) (before ++ payload ++ after)
  | marked (payload before after : String) (freeBefore : IsSpace before)
      (freeAfter : IsSpace after) :
      Frames (some payload) ("data: " ++ before ++ payload ++ after)

/-- Texts that carry these payloads in order, one on a line. The last line has no ending, and may be
nothing at all. -/
inductive Framed : List String → String → Prop where
  | last (content : Option String) (line : String) (frames : Frames content line) :
      Framed content.toList line
  | line (content : Option String) (line ending : String) (payloads : List String) (rest : String)
      (frames : Frames content line) (ends : ending = "\n" ∨ ending = "\r\n")
      (more : Framed payloads rest) : Framed (content.toList ++ payloads) (line ++ ending ++ rest)

/-- Chunks that carry these payloads, wherever they were cut. -/
def CarriedBy (payloads : List String) (chunks : List (List UInt8)) : Prop :=
  ∃ text, Framed payloads text ∧ chunks.flatten = text.toUTF8.data.toList

/-- What an event is decoded as. -/
abbrev Decoding : Type 1 := (α : Type) × Decoder α

abbrev Result : Type 1 := (α : Type) × Except CallError (Option α)

/-- An answer without the line that its failure shows, which is framed as it came. -/
def unlined {α : Type} : Except CallError (Option α) → Except CallError (Option α)
  | .error (.badEvent error _) => .error (.badEvent error "")
  | answer => answer

/-- The answers to calls for events, one after the other. -/
def readEvents : List Decoding → LineReader → List Result
  | [], _ => []
  | ⟨α, decode⟩ :: rest, reader =>
    ⟨α, unlined (reader.nextEvent decode).1⟩ :: readEvents rest (reader.nextEvent decode).2

/-- The answer to a call for an event when these payloads come. -/
def eventOf {α : Type} (decode : Decoder α) : List String → Except CallError (Option α)
  | [] => .ok none
  | payload :: _ =>
    if payload = "[DONE]" then .ok none
    else
      match decodeText decode payload with
      | .ok event => .ok (some event)
      | .error error => .error (.badEvent error "")

/-- The payloads that still come behind a call; none behind one that has handed no event out. -/
def restOf {α : Type} (decode : Decoder α) (payloads : List String) : List String :=
  if handsOut (eventOf decode payloads) then payloads.tail else []

/-- The answers to calls for events when these payloads come. -/
def eventsOf : List Decoding → List String → List Result
  | [], _ => []
  | ⟨α, decode⟩ :: rest, payloads =>
    ⟨α, eventOf decode payloads⟩ :: eventsOf rest (restOf decode payloads)

section Lines
variable {payload line before after : String} {content : Option String}

theorem IsPayload.tight (real : IsPayload payload) : Tight payload.toList := by
  have same : trimChars payload.toList = payload.toList := by
    have chars := congrArg String.toList real.trimmed
    simpa [trim] using chars
  exact same ▸ trimChars_tight payload.toList

private theorem surrounded_of_space (freeBefore : IsSpace before) (freeAfter : IsSpace after) :
    Surrounded (before ++ payload ++ after).toList payload.toList :=
  ⟨before.toList, after.toList, fun c inside => (freeBefore c inside).1,
    fun c inside => (freeAfter c inside).1, by simp only [String.toList_append]⟩

/-- Blanks in front of a payload, or behind it, do not complete a mark. -/
private theorem unmarked_of_payload (real : IsPayload payload) (freeBefore : IsSpace before)
    (freeAfter : IsSpace after) : ¬"data: ".toList <+: (before ++ payload ++ after).toList := by
  have solid : ∀ c ∈ "data:".toList, isBlank c = false := by simp [isBlank]
  intro marked
  have begins : "data:".toList <+: before.toList ++ (payload.toList ++ after.toList) := by
    have short : "data:".toList <+: "data: ".toList := ⟨[' '], rfl⟩
    simpa only [String.toList_append, List.append_assoc] using short.trans marked
  cases chars : before.toList with
  | cons c rest =>
    have first : c = 'd' := by
      rw [chars] at begins
      exact (List.cons_prefix_cons.mp begins).1.symm
    have blank := (freeBefore c (by simp [chars])).1
    rw [solid c (by simp [first])] at blank
    exact Bool.false_ne_true blank
  | nil =>
    rw [chars, List.nil_append] at begins
    rcases List.prefix_or_prefix_of_prefix begins (List.prefix_append _ after.toList) with
      inside | ⟨rest, beyond⟩
    · exact real.unmarked inside
    · rw [← beyond, List.prefix_append_right_inj] at begins
      cases rest with
      | nil => exact real.unmarked ⟨[], by simpa using beyond.symm⟩
      | cons c rest =>
        have blank := (freeAfter c (begins.subset List.mem_cons_self)).1
        rw [solid c (by simp [← beyond])] at blank
        exact Bool.false_ne_true blank

/-- However a payload is framed on its line, it is what the line carries. -/
theorem content_of_frames (real : ∀ payload, content = some payload → IsPayload payload)
    (frames : Frames content line) : contentOf line = content := by
  cases frames with
  | blank _ free =>
    exact content_of_blank (by simpa [isBlankText] using fun c inside => (free c inside).1)
  | mark space free =>
    apply content_of_space
    rw [String.toList_append, unmarked_marked]
    exact fun c inside => (free c inside).1
  | bare payload before after freeBefore freeAfter =>
    have real := real payload rfl
    have around : Surrounded (before ++ payload ++ after).toList payload.toList :=
      surrounded_of_space freeBefore freeAfter
    rw [← unmarked_bare (unmarked_of_payload real freeBefore freeAfter)] at around
    rw [content_of_surrounded real.tight around, if_neg real.filled]
  | marked payload before after freeBefore freeAfter =>
    have real := real payload rfl
    have whole : ("data: " ++ before ++ payload ++ after).toList =
        "data: ".toList ++ (before ++ payload ++ after).toList := by
      simp only [String.toList_append, List.append_assoc]
    have around : Surrounded (before ++ payload ++ after).toList payload.toList :=
      surrounded_of_space freeBefore freeAfter
    rw [← unmarked_marked (before ++ payload ++ after).toList, ← whole] at around
    rw [content_of_surrounded real.tight around, if_neg real.filled]

theorem unfed_of_frames (real : ∀ payload, content = some payload → IsPayload payload)
    (frames : Frames content line) : '\n' ∉ line.toList := by
  have unfed : ∀ {space : String}, IsSpace space → '\n' ∉ space.toList :=
    fun free inside => (free _ inside).2 rfl
  cases frames with
  | blank _ free => exact unfed free
  | mark _ free => simpa using unfed free
  | bare payload _ _ freeBefore freeAfter | marked payload _ _ freeBefore freeAfter =>
    simpa [and_assoc] using ⟨unfed freeBefore, (real payload rfl).oneLine, unfed freeAfter⟩

/-- A mark is complete before a carriage return comes, if it ever is. -/
theorem unmarked_returned (chars : List Char) :
    unmarked (chars ++ ['\r']) = unmarked chars ++ ['\r'] := by
  by_cases marked : "data: ".toList <+: chars
  · obtain ⟨rest, rfl⟩ := marked
    rw [List.append_assoc, unmarked_marked, unmarked_marked]
  · have stays : ¬"data: ".toList <+: chars ++ ['\r'] := by
      rw [List.prefix_concat_iff, not_or]
      refine ⟨fun same => ?_, marked⟩
      simpa using congrArg List.getLast? same
    rw [unmarked_bare marked, unmarked_bare stays]

/-- A carriage return behind a line is one more blank. -/
theorem content_of_returned (line : String) : contentOf (line ++ "\r") = contentOf line := by
  obtain ⟨before, after, blankBefore, blankAfter, whole⟩ :=
    trimChars_surrounded (unmarked line.toList)
  have around : Surrounded (unmarked (line ++ "\r").toList)
      (trimChars (unmarked line.toList)) := by
    have blank : isBlank '\r' = true := rfl
    refine ⟨before, after ++ ['\r'], blankBefore, ?_, ?_⟩
    · simpa [or_imp, forall_and, blank] using blankAfter
    · rw [String.toList_append, show "\r".toList = ['\r'] from rfl, unmarked_returned,
        ← List.append_assoc, ← whole]
  have same := trimChars_of_surrounded (trimChars_tight _) around
  rw [trim_chars_eq_inner, trim_chars_eq_inner] at same
  simp only [contentOf, same]

end Lines

section Streams
variable {payloads : List String} {text : String}

private theorem line_text_encode (line : String) : lineText (Utf8.encode line) = .ok line := by
  simp only [lineText, (decode_ok_iff _ _).mpr rfl]

/-- What is read of a line carries what the line does, with a carriage return at its end or not. -/
theorem line_text_unreturned (line : String) :
    ∃ read, lineText (unreturned (Utf8.encode line)) = .ok read ∧ contentOf read = contentOf line := by
  rw [← drop_return_eq, dropReturn]
  split
  · rename_i returned
    obtain ⟨front, whole⟩ := List.getLast?_eq_some_iff.mp returned
    obtain ⟨before, _, left, -⟩ := texts_of_cut (by decide) whole
    have same : before ++ "\r" = line := by
      rw [← encode_inj, encode_append, left, whole]
      rfl
    refine ⟨before, ?_, ?_⟩
    · rw [whole, List.dropLast_concat, ← left, line_text_encode]
    · rw [← same, content_of_returned]
  · exact ⟨line, line_text_encode line, rfl⟩

/-- The lines read of a text carry its payloads, in order. The induction is on the lines, the last
of which has no ending and is none at all if it is empty. -/
theorem findings_of_framed (real : ∀ payload ∈ payloads, IsPayload payload)
    (framed : Framed payloads text) :
    ∃ texts : List String, findings (Utf8.encode text) .clean = texts.map .ok ∧
      texts.filterMap contentOf = payloads := by
  have uncut : ∀ {line : String}, '\n' ∉ line.toList → 10 ∉ Utf8.encode line :=
    fun free inside => free (mem_of_encode rfl (by decide) inside)
  induction framed with
  | last content line frames =>
    have real : ∀ payload, content = some payload → IsPayload payload :=
      fun payload some => real payload (by simp [some])
    have carried := content_of_frames real frames
    rw [findings_uncut (uncut (unfed_of_frames real frames))]
    by_cases empty : line = ""
    · subst empty
      exact ⟨[], rfl, by rw [← carried]; rfl⟩
    · have filled : Utf8.encode line ≠ [] := fun none => empty (encode_inj.mp none)
      refine ⟨[line], ?_, by cases content <;> simp [carried]⟩
      simp [filled, line_text_encode]
  | line content line ending payloads rest frames ends more ih =>
    have realLine : ∀ payload, content = some payload → IsPayload payload :=
      fun payload some => real payload (by simp [some])
    obtain ⟨texts, found, carried⟩ :=
      ih fun payload inside => real payload (List.mem_append_right _ inside)
    obtain ⟨whole, same, free, fed⟩ : ∃ whole : String, contentOf whole = content ∧
        '\n' ∉ whole.toList ∧ line ++ ending = whole ++ "\n" := by
      have carried := content_of_frames realLine frames
      have free := unfed_of_frames realLine frames
      rcases ends with rfl | rfl
      · exact ⟨line, carried, free, rfl⟩
      · refine ⟨line ++ "\r", ?_, by simpa using free, by rw [String.append_assoc]; rfl⟩
        rw [content_of_returned, carried]
    obtain ⟨read, text, again⟩ := line_text_unreturned whole
    refine ⟨read :: texts, ?_, ?_⟩
    · have bytes : Utf8.encode (line ++ ending ++ rest) =
          Utf8.encode whole ++ 10 :: Utf8.encode rest := by
        rw [fed, encode_append, encode_append, List.append_assoc]
        rfl
      rw [bytes, findings_cut (uncut free), text, through_more rfl, findings_through, found,
        List.map_cons]
    · rw [← carried]
      cases content <;> simp [again, same]

end Streams

section Events
variable {α : Type} {reader : LineReader}

@[simp] theorem hands_out_unlined (answer : Except CallError (Option α)) :
    handsOut (unlined answer) = handsOut answer := by
  unfold unlined
  split <;> rfl

theorem event_of_not_cancelled (decode : Decoder α) (payloads : List String) :
    eventOf decode payloads ≠ .error .cancelled := by
  unfold eventOf
  repeat' split
  all_goals simp

/-- What a call for an event makes of the first line with a payload. -/
theorem unlined_act (decode : Decoder α) {text payload : String}
    (carried : contentOf text = some payload) (more : List String) :
    unlined ((Call.event decode).actOn (.ok text) : Except CallError (Option α)) =
      eventOf decode (payload :: more) := by
  by_cases marker : payload = "[DONE]"
  · rw [act_on_marker (marker ▸ carried), eventOf, if_pos marker]
    rfl
  · rw [eventOf, if_neg marker]
    cases decoded : decodeText decode payload with
    | ok event =>
      rw [act_on_event carried marker decoded]
      rfl
    | error error =>
      rw [act_on_fault carried marker decoded]
      rfl

/-- A call for an event sees nothing of the lines ahead but their payloads. -/
theorem event_of_texts (decode : Decoder α) (texts : List String) :
    unlined ((Call.event decode).answer (texts.map .ok) : Except CallError (Option α)) =
        eventOf decode (texts.filterMap contentOf) ∧
      ∃ left : List String, (Call.event decode).leaves (texts.map .ok) = left.map .ok ∧
        left.filterMap contentOf = restOf decode (texts.filterMap contentOf) := by
  induction texts with
  | nil => exact ⟨rfl, [], rfl, rfl⟩
  | cons text texts ih =>
    cases carried : contentOf text with
    | none =>
      have passed : (Call.event decode).passes (.ok text) = true := event_passed carried
      simpa [answer_passed passed, leaves_passed passed, carried] using ih
    | some payload =>
      have acted : (Call.event decode).passes (.ok text) = false := event_acted carried
      have same := unlined_act decode carried (texts.filterMap contentOf)
      have hands : handsOut ((Call.event decode).actOn (.ok text)) =
          handsOut (eventOf decode (payload :: texts.filterMap contentOf)) := by
        rw [← same]
        exact (hands_out_unlined _).symm
      rw [List.map_cons, answer_acted acted, leaves_acted acted, same, hands,
        List.filterMap_cons_some carried, restOf]
      refine ⟨rfl, ?_⟩
      split
      · exact ⟨texts, rfl, rfl⟩
      · exact ⟨[], rfl, rfl⟩

/-- As long as the token is not cancelled, calls for events see nothing but the payloads ahead. -/
theorem events_of_texts (decodings : List Decoding) (texts : List String) (settled : Settled reader)
    (going : reader.cancelled = false) (found : ahead reader = texts.map .ok) :
    readEvents decodings reader = eventsOf decodings (texts.filterMap contentOf) := by
  induction decodings generalizing reader texts with
  | nil => rfl
  | cons decoding rest ih =>
    obtain ⟨α, decode⟩ := decoding
    obtain ⟨answered, served⟩ := next_event_served decode settled going
    obtain ⟨told, left, leaves, carried⟩ := event_of_texts decode texts
    rw [found] at answered served
    have event : unlined (reader.nextEvent decode).1 = eventOf decode (texts.filterMap contentOf) :=
      (congrArg unlined answered).trans told
    have goingOn : (reader.nextEvent decode).2.cancelled = false := by
      rw [← Bool.not_eq_true]
      intro stopped
      rw [StreamCancellation.next_event_stopped decode going stopped] at event
      exact event_of_not_cancelled decode _ event.symm
    rw [readEvents, eventsOf, event, ih left served.settled goingOn (served.left.trans leaves),
      carried]

/-- Calls for events see the payloads that a stream carries and nothing of their frames: not whether
a payload stands behind a mark, which blanks surround it, how its line ends, what empty lines come
in between, or how the bytes are cut into chunks. Only the line that a failure shows is framed as it
came. -/
theorem events_same_however_framed (payloads : List String)
    (real : ∀ payload ∈ payloads, IsPayload payload) (decodings : List Decoding) :
    (∀ chunks, CarriedBy payloads chunks →
        readEvents decodings (.ofReads (scriptOf chunks none) false) = eventsOf decodings payloads) ∧
      ∀ chunks others, CarriedBy payloads chunks → CarriedBy payloads others →
        readEvents decodings (.ofReads (scriptOf chunks none) false) =
          readEvents decodings (.ofReads (scriptOf others none) false) := by
  have seen : ∀ chunks, CarriedBy payloads chunks →
      readEvents decodings (.ofReads (scriptOf chunks none) false) =
        eventsOf decodings payloads := by
    rintro chunks ⟨text, framed, whole⟩
    obtain ⟨texts, found, carried⟩ := findings_of_framed real framed
    have ahead : ahead (.ofReads (scriptOf chunks none) false) = texts.map .ok := by
      rw [ahead_ofReads, bytes_scriptOf, close_scriptOf, closeBy, whole, ← encode_eq_stored, found]
    rw [← carried]
    exact events_of_texts decodings texts (settled_ofReads _ _) rfl ahead
  refine ⟨seen, ?_⟩
  intro chunks others carried otherwise
  rw [seen chunks carried, seen others otherwise]

/-- Marked and cut inside of an ending, or bare and with a mark alone: the same value, the same
failure. -/
theorem events_same_marked_and_bare :
    let payloads := ["true", "\x7b"]
    let chunks := [Utf8.encode "data: true\r", Utf8.encode "\n \t\n  \x7b"]
    let others := [Utf8.encode "true\r\n", Utf8.encode "data: \ndata:  \x7b \n"]
    let decodings : List Decoding := [⟨_, Decode.value⟩, ⟨_, Decode.value⟩, ⟨_, Decode.value⟩]
    ((∀ payload ∈ payloads, IsPayload payload) ∧ CarriedBy payloads chunks ∧
        CarriedBy payloads others) ∧
      readEvents decodings (.ofReads (scriptOf chunks none) false) =
        readEvents decodings (.ofReads (scriptOf others none) false) ∧
      readEvents decodings (.ofReads (scriptOf chunks none) false) =
        [⟨Value, .ok (some (.bool true))⟩,
          ⟨Value, .error (.badEvent ⟨.endOfObject, some ⟨1, 1⟩⟩ "")⟩, ⟨Value, .ok none⟩] := by
  intro payloads chunks others decodings
  have real : ∀ payload ∈ payloads, IsPayload payload := by
    have word : IsPayload "true" := ⟨by simp, rfl, by simp, by simp⟩
    have brace : IsPayload "\x7b" := ⟨by simp, rfl, by simp, by simp⟩
    simp [payloads, word, brace]
  have free : ∀ space ∈ ["", " ", "  ", " \t"], IsSpace space := by
    simp [IsSpace, isBlank]
  simp only [List.forall_mem_cons, List.not_mem_nil, false_implies, implies_true, and_true] at free
  obtain ⟨none, one, two, tab⟩ := free
  have carried : CarriedBy payloads chunks := by
    refine ⟨"data: " ++ "" ++ "true" ++ "" ++ "\r\n" ++ (" \t" ++ "\n" ++ ("  " ++ "\x7b" ++ "")),
      ?_, rfl⟩
    refine .line (some "true") _ _ ["\x7b"] _ (.marked _ _ _ none none) (.inr rfl) ?_
    refine .line .none _ _ ["\x7b"] _ (.blank _ tab) (.inl rfl) ?_
    exact .last (some "\x7b") _ (.bare _ _ _ two none)
  have otherwise : CarriedBy payloads others := by
    refine ⟨"" ++ "true" ++ "" ++ "\r\n" ++ ("data: " ++ "" ++ "\n" ++
      ("data: " ++ " " ++ "\x7b" ++ " " ++ "\n" ++ "")), ?_, rfl⟩
    refine .line (some "true") _ _ ["\x7b"] _ (.bare _ _ _ none none) (.inr rfl) ?_
    refine .line .none _ _ ["\x7b"] _ (.mark _ none) (.inl rfl) ?_
    refine .line (some "\x7b") _ _ [] _ (.marked _ _ _ one one) (.inl rfl) ?_
    exact .last .none "" (.blank _ none)
  obtain ⟨seen, same⟩ := events_same_however_framed payloads real decodings
  refine ⟨⟨real, carried, otherwise⟩, same chunks others carried otherwise, ?_⟩
  rw [seen chunks carried]
  have read : decodeText Decode.value "true" = .ok (.bool true) := rfl
  have broken : decodeText Decode.value "\x7b" = .error ⟨.endOfObject, some ⟨1, 1⟩⟩ := rfl
  simp [decodings, payloads, eventsOf, eventOf, restOf, handsOut, read, broken]

end Events

end ChatClient.StreamFraming
