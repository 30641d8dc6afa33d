import ChatClient.Stream.LineReader
import ChatClient.Text.Blank

/-! Events on a line stream. A line carries an event, with or without a mark in front; blank lines
carry nothing, and one payload marks the end of the stream. -/

namespace ChatClient

open Json

/-- The mark that lines may carry in front of an event. -/
def eventMark : String := "data: "

/-- The payload that ends a stream. -/
def endMarker : String := "[DONE]"

/-- Drops the mark in front of a line, if it is there. -/
def dropMark (line : List Char) : List Char :=
  if eventMark.toList.isPrefixOf line then line.drop eventMark.length else line

/-- The payload of a line, none for a line that carries nothing. Space around a payload belongs to
none. -/
def payload? (line : String) : Option String :=
  if Text.isBlankText line then none
  else
    let payload := String.ofList (Text.trimChars (dropMark line.toList))
    if payload.isEmpty then none else some payload

namespace LineReader

variable {α : Type}

/-- The next event, none at the end marker or at the end of the source. Lines without a payload are
skipped. A payload that does not decode is a failure, and like the marker releases the source. -/
def nextEvent (decode : Decoder α) (reader : LineReader) :
    Except CallError (Option α) × LineReader :=
  match _read : reader.nextLine with
  | (.error error, after) => (.error error, after)
  | (.ok none, after) => (.ok none, after)
  | (.ok (some line), after) =>
    match payload? line with
    | none => nextEvent decode after
    | some payload =>
      if payload = endMarker then (.ok none, after.release)
      else
        match decodeText decode payload with
        | .ok event => (.ok (some event), after)
        | .error error => (.error (.badEvent error line), after.release)
termination_by reader.pending
decreasing_by exact nextLine_pending _read

/-- An event that is handed out was among the bytes buffered or still to come. -/
theorem nextEvent_pending {decode : Decoder α} {reader after : LineReader} {event : α}
    (read : reader.nextEvent decode = (.ok (some event), after)) :
    after.pending < reader.pending := by
  fun_induction nextEvent decode reader with
  | case1 => simp at read
  | case2 => simp at read
  | case3 reader line next lineRead skipped step =>
    exact Nat.lt_trans (step read) (nextLine_pending lineRead)
  | case4 => simp at read
  | case5 reader line next lineRead payload _ _ found decoded =>
    simp only [Prod.mk.injEq] at read
    exact read.2 ▸ nextLine_pending lineRead
  | case6 => simp at read

end LineReader

end ChatClient
