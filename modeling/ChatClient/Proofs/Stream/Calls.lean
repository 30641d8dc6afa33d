import ChatClient.Proofs.Stream.LineReading
import ChatClient.Proofs.Stream.Payloads

/-! Calls for lines and calls for events share one reader. Whatever order they are made in, they
share out the lines of one stream between them: each call takes some of the lines ahead, from the
front, and its answer is told from the lines that it has taken. A call that hands nothing out is
the last one that has anything to take. -/
namespace ChatClient.StreamCalls
open Json StreamLines LineReading StreamPayloads

/-- A call on a reader. What events are decoded as may differ from call to call. -/
inductive Call : Type 1 where
  | line
  | event {α : Type} (decode : Decoder α)

namespace Call

/-- What a call hands out. -/
def Content : Call → Type
  | .line => String
  | @event α _ => α

abbrev Answer (call : Call) : Type := Except CallError (Option call.Content)

/-- The call as the reader serves it. -/
def serve : (call : Call) → LineReader → call.Answer × LineReader
  | .line, reader => reader.nextLine
  | .event decode, reader => reader.nextEvent decode

/-- The lines that a call passes over: a call for an event, those that carry nothing. -/
def passes : Call → Line → Bool
  | .event _, .ok text => (contentOf text).isNone
  | _, _ => false

/-- What a call makes of the line that it does not pass over. -/
def actOn : (call : Call) → Line → call.Answer
  | _, .error error => .error error
  | .line, .ok text => .ok (some text)
  | .event decode, .ok text =>
    match contentOf text with
    | none => .ok none
    | some payload =>
      if payload = "[DONE]" then .ok none
      else
        match decodeText decode payload with
        | .ok content => .ok (some content)
        | .error error => .error (.badEvent error text)

/-- The lines that a call takes from those ahead: all that it passes over, and the next one. -/
def share (call : Call) (lines : List Line) : List Line :=
  lines.takeWhile call.passes ++ (lines.dropWhile call.passes).take 1

/-- What a call answers when these lines are ahead, nothing being the end. -/
def answer (call : Call) (lines : List Line) : call.Answer :=
  match lines.dropWhile call.passes with
  | [] => .ok none
  | first :: _ => call.actOn first

/-- The lines ahead after a call. Once a call has handed nothing out there are none. -/
def leaves (call : Call) (lines : List Line) : List Line :=
  if handsOut (call.answer lines) then (lines.dropWhile call.passes).tail else []

end Call

/-- An entry in the record of a run: a call, its answer, and whether the reader has let go of its
source by then. -/
structure Reply : Type 1 where
  call : Call
  answer : call.Answer
  released : Bool

/-- Makes calls one after the other on one reader. -/
def run : List Call → LineReader → List Reply × LineReader
  | [], reader => ([], reader)
  | call :: rest, reader =>
    let (answer, after) := call.serve reader
    let (replies, last) := run rest after
    (⟨call, answer, after.released⟩ :: replies, last)

/-- The share that each of the calls has in the lines ahead. -/
def shares : List Call → List Line → List (List Line)
  | [], _ => []
  | call :: rest, lines => call.share lines :: shares rest (call.leaves lines)

/-- The reply of a call to its own share of the lines, and to nothing else. -/
def replyTo (call : Call) (share : List Line) : Reply :=
  ⟨call, call.answer share, !handsOut (call.answer share)⟩

section Answers
variable {call : Call} {first : Line} {rest lines : List Line}

theorem answer_passed (passed : call.passes first = true) :
    call.answer (first :: rest) = call.answer rest := by
  simp [Call.answer, passed]

theorem answer_acted (acted : call.passes first = false) :
    call.answer (first :: rest) = call.actOn first := by
  simp [Call.answer, acted]

theorem leaves_passed (passed : call.passes first = true) :
    call.leaves (first :: rest) = call.leaves rest := by
  simp [Call.leaves, answer_passed, passed]

theorem leaves_acted (acted : call.passes first = false) :
    call.leaves (first :: rest) = if handsOut (call.actOn first) then rest else [] := by
  simp [Call.leaves, answer_acted, acted]

/-- A call looks at no line but those of its share. -/
theorem answer_share : call.answer (call.share lines) = call.answer lines := by
  induction lines with
  | nil => rfl
  | cons first rest ih =>
    by_cases passed : call.passes first = true
    · simp only [Call.share, List.takeWhile_cons_of_pos passed, List.dropWhile_cons_of_pos passed,
        List.cons_append, answer_passed passed] at ih ⊢
      exact ih
    · have acted : call.passes first = false := by simpa using passed
      simp [Call.share, acted, answer_acted]

/-- What a call takes and what it leaves lie one behind the other at the front of the lines ahead.
-/
theorem share_append_leaves : call.share lines ++ call.leaves lines <+: lines := by
  have whole := List.takeWhile_append_dropWhile (p := call.passes) (l := lines)
  unfold Call.share Call.leaves
  split
  · refine ⟨[], ?_⟩
    rw [List.append_nil, List.append_assoc, ← List.drop_one, List.take_append_drop, whole]
  · rw [List.append_nil]
    conv_rhs => rw [← whole]
    exact (List.prefix_append_right_inj _).mpr (List.take_prefix 1 _)

end Answers

section Events
variable {α : Type} {decode : Decoder α} {text payload : String}

theorem event_passed (bare : contentOf text = none) :
    (Call.event decode).passes (.ok text) = true := by
  simp [Call.passes, bare]

theorem event_acted (carried : contentOf text = some payload) :
    (Call.event decode).passes (.ok text) = false := by
  simp [Call.passes, carried]

theorem act_on_marker (marked : contentOf text = some "[DONE]") :
    (Call.event decode).actOn (.ok text) = .ok none := by
  simp only [Call.actOn, marked, ↓reduceIte]

theorem act_on_event {event : α} (carried : contentOf text = some payload)
    (unmarked : payload ≠ "[DONE]") (decoded : decodeText decode payload = .ok event) :
    (Call.event decode).actOn (.ok text) = .ok (some event) := by
  simp only [Call.actOn, carried, unmarked, decoded, ↓reduceIte]

theorem act_on_fault {error : Error} (carried : contentOf text = some payload)
    (unmarked : payload ≠ "[DONE]") (refused : decodeText decode payload = .error error) :
    (Call.event decode).actOn (.ok text) = .error (.badEvent error text) := by
  simp only [Call.actOn, carried, unmarked, refused, ↓reduceIte]

end Events

section Serving
variable {reader : LineReader}

/-- One call for an event acts on the first line ahead that carries one. The induction follows the
reader from line to line, and each line that it passes over is passed over ahead as well. -/
theorem next_event_served {α : Type} (decode : Decoder α) (settled : Settled reader)
    (going : reader.cancelled = false) :
    (reader.nextEvent decode).1 = (Call.event decode).answer (ahead reader) ∧
      Served (reader.nextEvent decode).1 ((Call.event decode).leaves (ahead reader))
        (reader.nextEvent decode).2 := by
  fun_induction LineReader.nextEvent decode reader with
  | case1 reader error after read =>
    have served := served_of_next_line settled going read
    rw [ahead_of_failure settled going read]
    exact ⟨rfl, served.settled, released_ahead served.settled served.released, served.released,
      by simp⟩
  | case2 reader after read =>
    have served := served_of_next_line settled going read
    rw [ahead_of_end settled going read]
    exact ⟨rfl, served.settled, released_ahead served.settled served.released, served.released,
      fun _ _ => served.going none rfl⟩
  | case3 reader line after read skipped ih =>
    have served := served_of_next_line settled going read
    rw [payload_eq_content] at skipped
    have passed : (Call.event decode).passes (.ok line) = true := event_passed skipped
    rw [ahead_of_line settled going read, answer_passed passed, leaves_passed passed]
    exact ih served.settled (served.going _ rfl)
  | case4 reader line after read marked =>
    have served := served_of_next_line settled going read
    rw [payload_eq_content] at marked
    have acted : (Call.event decode).passes (.ok line) = false := event_acted marked
    rw [ahead_of_line settled going read, answer_acted acted, leaves_acted acted,
      act_on_marker marked]
    exact ⟨rfl, release_settled served.settled, release_ahead served.settled, by simp [handsOut],
      fun _ _ => by simpa using served.going _ rfl⟩
  | case5 reader line after read payload carried unmarked event decoded =>
    have served := served_of_next_line settled going read
    rw [payload_eq_content] at carried
    have acted : (Call.event decode).passes (.ok line) = false := event_acted carried
    rw [ahead_of_line settled going read, answer_acted acted, leaves_acted acted,
      act_on_event carried unmarked decoded]
    exact ⟨rfl, served.settled, rfl, served.released, fun _ _ => served.going _ rfl⟩
  | case6 reader line after read payload carried unmarked error decoded =>
    have served := served_of_next_line settled going read
    rw [payload_eq_content] at carried
    have acted : (Call.event decode).passes (.ok line) = false := event_acted carried
    rw [ahead_of_line settled going read, answer_acted acted, leaves_acted acted,
      act_on_fault carried unmarked decoded]
    exact ⟨rfl, release_settled served.settled, release_ahead served.settled, by simp [handsOut],
      by simp⟩

/-- What was ahead of a reader tells the answer of its call for an event. -/
theorem served_of_next_event {α : Type} {decode : Decoder α} {after : LineReader}
    {answer : Except CallError (Option α)} (settled : Settled reader)
    (going : reader.cancelled = false) (read : reader.nextEvent decode = (answer, after)) :
    (Call.event decode).answer (ahead reader) = answer ∧
      Served answer ((Call.event decode).leaves (ahead reader)) after := by
  obtain ⟨answered, served⟩ := next_event_served decode settled going
  rw [read] at answered served
  exact ⟨answered.symm, served⟩

/-- One call answers from its share of the lines ahead and leaves what is behind it. -/
theorem serve_served (call : Call) (settled : Settled reader) (going : reader.cancelled = false) :
    (call.serve reader).1 = call.answer (ahead reader) ∧
      Served (call.serve reader).1 (call.leaves (ahead reader)) (call.serve reader).2 := by
  cases call with
  | event decode => exact next_event_served decode settled going
  | line =>
    obtain ⟨answered, served⟩ := next_line_served settled going
    cases found : ahead reader with
    | nil =>
      rw [found] at answered served
      exact ⟨answered, served⟩
    | cons first rest =>
      rw [found] at answered served
      cases first with
      | ok text =>
        rw [answer_acted rfl, leaves_acted rfl]
        exact ⟨answered, served⟩
      | error error =>
        have last := tail_of_last ((ahead_through reader).trans found) rfl
        rw [last] at served
        rw [answer_acted rfl, leaves_acted rfl]
        exact ⟨answered, served⟩

/-- Whatever a call for an event passes over, a token once cancelled stays cancelled. -/
theorem next_event_keeps_cancelled {α : Type} {decode : Decoder α} {after : LineReader}
    {answer : Except CallError (Option α)} (stopped : reader.cancelled = true)
    (read : reader.nextEvent decode = (answer, after)) : after.cancelled = true := by
  fun_induction LineReader.nextEvent decode reader with
  | case1 reader error next lineRead =>
    cases read
    exact next_line_keeps_cancelled stopped lineRead
  | case2 reader next lineRead =>
    cases read
    exact next_line_keeps_cancelled stopped lineRead
  | case3 reader line next lineRead skipped ih =>
    exact ih (next_line_keeps_cancelled stopped lineRead) read
  | case4 reader line next lineRead marked =>
    cases read
    simpa using next_line_keeps_cancelled stopped lineRead
  | case5 reader line next lineRead =>
    cases read
    exact next_line_keeps_cancelled stopped lineRead
  | case6 reader line next lineRead =>
    cases read
    simpa using next_line_keeps_cancelled stopped lineRead

theorem serve_keeps_cancelled (call : Call) (stopped : reader.cancelled = true) :
    (call.serve reader).2.cancelled = true := by
  cases call with
  | line => exact next_line_keeps_cancelled stopped rfl
  | event decode => exact next_event_keeps_cancelled stopped rfl

end Serving

section Runs
variable {reader : LineReader}

theorem run_keeps_cancelled (calls : List Call) (reader : LineReader)
    (stopped : reader.cancelled = true) : (run calls reader).2.cancelled = true := by
  induction calls generalizing reader with
  | nil => exact stopped
  | cons call rest ih => exact ih _ (serve_keeps_cancelled call stopped)

/-- The replies of a run are those of the calls to their shares. A token that is not cancelled at
the end of the run was not cancelled at any call. -/
theorem run_replies (calls : List Call) (reader : LineReader) (settled : Settled reader)
    (never : (run calls reader).2.cancelled = false) :
    (run calls reader).1 = List.zipWith replyTo calls (shares calls (ahead reader)) := by
  induction calls generalizing reader with
  | nil => rfl
  | cons call rest ih =>
    have going : reader.cancelled = false := by
      rw [← Bool.not_eq_true]
      intro stopped
      simp [run_keeps_cancelled (call :: rest) reader stopped] at never
    obtain ⟨answered, served⟩ := serve_served call settled going
    have later := ih (call.serve reader).2 served.settled never
    simp only [run, shares, List.zipWith_cons_cons, replyTo, answer_share]
    rw [later, served.left, served.released, answered]

theorem shares_length (calls : List Call) (lines : List Line) :
    (shares calls lines).length = calls.length := by
  induction calls generalizing lines with
  | nil => rfl
  | cons call rest ih => simp [shares, ih]

/-- Put together in the order of the calls, the shares are the lines from the front on: none is left
out between them, and none belongs to two. -/
theorem shares_prefix (calls : List Call) (lines : List Line) :
    (shares calls lines).flatten <+: lines := by
  induction calls generalizing lines with
  | nil => exact List.nil_prefix
  | cons call rest ih =>
    have behind := (List.prefix_append_right_inj (call.share lines)).mpr (ih (call.leaves lines))
    exact behind.trans share_append_leaves

private theorem replies_at_end (calls : List Call) :
    ∀ reply ∈ List.zipWith replyTo calls (shares calls []),
      reply.answer = .ok none ∧ reply.released = true := by
  induction calls with
  | nil => simp [shares]
  | cons call rest ih =>
    intro reply member
    rcases List.mem_cons.mp member with rfl | member
    · exact ⟨rfl, rfl⟩
    · exact ih reply member

/-- Once a call has handed nothing out, all later ones find the end. -/
theorem replies_stop (calls : List Call) (lines : List Line) :
    (List.zipWith replyTo calls (shares calls lines)).Pairwise fun reply later =>
      handsOut reply.answer = false → later.answer = .ok none ∧ later.released = true := by
  induction calls generalizing lines with
  | nil => exact .nil
  | cons call rest ih =>
    refine .cons ?_ (ih _)
    intro later member stopped
    have left : call.leaves lines = [] := by
      simp only [replyTo, answer_share] at stopped
      simp [Call.leaves, stopped]
    rw [left] at member
    exact replies_at_end rest later member

/-- Calls for lines and for events, in any order and decoded as anything, share the lines of a
stream out between them: each call takes the next lines, answers to those alone, and lets go of
the source unless it hands something out; after that the rest of the stream is never looked at. A
line is the text that has its bytes. -/
theorem calls_share_out_lines_in_order (reads : List Read) (calls : List Call)
    (never : (run calls (.ofReads reads false)).2.cancelled = false) :
    let found := findings (bytesOf reads) (closeOf reads)
    let replies := (run calls (.ofReads reads false)).1
    replies = List.zipWith replyTo calls (shares calls found) ∧
      (shares calls found).length = calls.length ∧ (shares calls found).flatten <+: found ∧
      (replies.Pairwise fun reply later =>
        handsOut reply.answer = false → later.answer = .ok none ∧ later.released = true) ∧
      ∀ line text, lineText line = .ok text ↔ text.toUTF8.data.toList = line := by
  have replies := run_replies calls _ (settled_ofReads reads false) never
  rw [ahead_ofReads] at replies
  refine ⟨replies, shares_length .., shares_prefix .., ?_, line_text_ok_iff⟩
  rw [replies]
  exact replies_stop ..

/-- An event behind a blank line, and a marker that came in two chunks: it keeps the line behind it
from every call. An event that does not decode does the same. -/
theorem calls_share_out_lines_around_marker :
    let reads : List Read :=
      [.bytes (Text.Utf8.encode "data: 1\r\n\ntrue\ndata: [DO"),
        .bytes (Text.Utf8.encode "NE]\nlate\n")]
    let broken : List Read := [.bytes (Text.Utf8.encode "data: \n\x7b \nlate\n")]
    let calls : List Call := [.line, .event Decode.value, .event Decode.value, .line]
    let fewer : List Call := [.event Decode.value, .line]
    ((run calls (.ofReads reads false)).2.cancelled = false ∧
        (run fewer (.ofReads broken false)).2.cancelled = false) ∧
      (run calls (.ofReads reads false)).1 =
        [⟨.line, .ok (some "data: 1"), false⟩,
          ⟨.event Decode.value, .ok (some (.bool true)), false⟩,
          ⟨.event Decode.value, .ok none, true⟩, ⟨.line, .ok none, true⟩] ∧
      (run fewer (.ofReads broken false)).1 =
        [⟨.event Decode.value, .error (.badEvent ⟨.endOfObject, some ⟨1, 1⟩⟩ "\x7b "), true⟩,
          ⟨.line, .ok none, true⟩] := by
  intro reads broken calls fewer
  have never : (run calls (.ofReads reads false)).2.cancelled = false := by decide +kernel
  have nor : (run fewer (.ofReads broken false)).2.cancelled = false := by decide +kernel
  have found : findings (bytesOf reads) (closeOf reads) =
      [.ok "data: 1", .ok "", .ok "true", .ok "data: [DONE]", .ok "late"] := by decide +kernel
  have other : findings (bytesOf broken) (closeOf broken) =
      [.ok "data: ", .ok "\x7b ", .ok "late"] := by decide +kernel
  have nothing : contentOf "" = none ∧ contentOf "data: " = none := by decide +kernel
  have carried : contentOf "true" = some "true" ∧ contentOf "\x7b " = some "\x7b" ∧
      contentOf "data: [DONE]" = some "[DONE]" := by decide +kernel
  have event : decodeText Decode.value "true" = .ok (.bool true) := rfl
  have fault : decodeText Decode.value "\x7b" = .error ⟨.endOfObject, some ⟨1, 1⟩⟩ := rfl
  have told := (calls_share_out_lines_in_order reads calls never).1
  have failed := (calls_share_out_lines_in_order broken fewer nor).1
  rw [found] at told
  rw [other] at failed
  refine ⟨⟨never, nor⟩, told.trans ?_, failed.trans ?_⟩
  · simp [calls, shares, replyTo, Call.share, Call.leaves, Call.answer, Call.passes, Call.actOn,
      handsOut, nothing, carried, event]
  · simp [fewer, shares, replyTo, Call.share, Call.leaves, Call.answer, Call.passes, Call.actOn,
      handsOut, nothing, carried, fault]

end Runs

end ChatClient.StreamCalls
