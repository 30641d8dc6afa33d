import ChatClient.Stream.Source

/-! Reading lines from a byte source. A read is asked for only when no complete line is buffered,
and an unfinished line waits for its end, or for the end of the source. The source is dropped as
soon as nothing more will be taken from it: at the end, after a failure or cancellation, or on
request. -/

namespace ChatClient

/-- Splits bytes at their first line feed, which belongs to neither part. -/
def splitLine? (bytes : List UInt8) : Option (List UInt8 × List UInt8) :=
  match bytes.dropWhile (· ≠ 10) with
  | [] => none
  | _ :: rest => some (bytes.takeWhile (· ≠ 10), rest)

/-- Drops one carriage return at the end of a line. -/
def dropReturn (line : List UInt8) : List UInt8 :=
  if line.getLast? = some 13 then line.dropLast else line

/-- The text of a line. -/
def lineText (line : List UInt8) : Except CallError String :=
  match Text.Utf8.decode line with
  | .ok text => .ok text
  | .error fault => .error (.notUtf8 fault)

structure LineReader where
  source : Source
  /-- Bytes that were read and not handed out yet. -/
  buffer : List UInt8
  /-- Whether the source has nothing more to give. -/
  exhausted : Bool
  released : Bool
  /-- Whether the caller has cancelled. -/
  cancelled : Bool
  deriving DecidableEq

namespace LineReader

def ofReads (reads : List Read) (cancelled : Bool) : LineReader :=
  ⟨.ofReads reads, [], false, false, cancelled⟩

/-- A one-line description that shows no content. -/
def describe (reader : LineReader) : String :=
  s!"LineEventParser \x7b buffered: {reader.buffer.length}, exhausted: {reader.exhausted}, " ++
    s!"released: {reader.released}, .. \x7d"

/-- Cancels on behalf of the caller; the reader notices it at its next step. -/
def cancel (reader : LineReader) : LineReader :=
  { reader with cancelled := true }

/-- Drops the source and all that is buffered. Whatever is read later is at its end. -/
def release (reader : LineReader) : LineReader :=
  if reader.released then reader
  else
    { reader with source := reader.source.drop, buffer := [], exhausted := true, released := true }

/-- Fails if the caller has cancelled, releasing the source first. -/
def checkCancelled (reader : LineReader) : Except CallError Unit × LineReader :=
  if reader.cancelled then (.error .cancelled, reader.release) else (.ok (), reader)

/-- The last line, when the source has ended: what is buffered, or none if that is nothing. -/
def lastLine (reader : LineReader) : Except CallError (Option String) × LineReader :=
  if reader.buffer.isEmpty then (.ok none, reader.release)
  else ((lineText reader.buffer).map some, { reader with buffer := [] })

/-- The line in front of the buffer, the rest of which is given. -/
def frontLine (reader : LineReader) (line rest : List UInt8) :
    Except CallError (Option String) × LineReader :=
  ((lineText (dropReturn line)).map some, { reader with buffer := rest })

/-- Reads on until a line is complete. The list holds the reads still to come. -/
def pull (reader : LineReader) : List Read → Except CallError (Option String) × LineReader
  | [] => { reader with source := reader.source.reportEnd, exhausted := true }.lastLine
  | .failure error :: rest =>
    (.error error, { reader with source := reader.source.advance (.failure error) rest })
  | .stall :: rest =>
    (.error .cancelled,
      { reader with source := reader.source.advance .stall rest, cancelled := true })
  | .bytes chunk :: rest =>
    let filled :=
      { reader with
        source := reader.source.advance (.bytes chunk) rest
        buffer := reader.buffer ++ chunk }
    match splitLine? filled.buffer with
    | some (line, rest) => filled.frontLine line rest
    | none => filled.pull rest

/-- One line, without looking after the source on failure. -/
def readLine (reader : LineReader) : Except CallError (Option String) × LineReader :=
  if reader.cancelled then (.error .cancelled, reader.release)
  else
    match splitLine? reader.buffer with
    | some (line, rest) => reader.frontLine line rest
    | none => if reader.exhausted then reader.lastLine else reader.pull reader.source.unread

/-- The next line without its ending, none at the end of the source. A failure releases it. -/
def nextLine (reader : LineReader) : Except CallError (Option String) × LineReader :=
  match reader.readLine with
  | (.error error, after) => (.error error, after.release)
  | (.ok line, after) => (.ok line, after)

/-- How many bytes are buffered or still to come. -/
def pending (reader : LineReader) : Nat :=
  reader.buffer.length + reader.source.unreadSize

theorem splitLine?_length {bytes line rest : List UInt8}
    (split : splitLine? bytes = some (line, rest)) : rest.length < bytes.length := by
  unfold splitLine? at split
  have whole := congrArg List.length (List.takeWhile_append_dropWhile (p := (· ≠ 10)) (l := bytes))
  cases tail : bytes.dropWhile (· ≠ 10) with
  | nil =>
    rw [tail] at split
    cases split
  | cons b after =>
    simp only [tail, Option.some.injEq, Prod.mk.injEq] at split
    simp only [tail, List.length_append, List.length_cons] at whole
    rw [← split.2]
    omega

private theorem lastLine_pending {reader after : LineReader} {line : String}
    (read : reader.lastLine = (.ok (some line), after)) : after.pending < reader.pending := by
  unfold lastLine at read
  split at read
  · simp at read
  · rename_i filled
    have present : 0 < reader.buffer.length := by
      cases content : reader.buffer with
      | nil => simp [content] at filled
      | cons => simp
    simp only [Prod.mk.injEq] at read
    rw [← read.2]
    simp only [pending, List.length_nil]
    omega

private theorem frontLine_pending {reader after : LineReader} {line rest : List UInt8}
    {result : Except CallError (Option String)}
    (split : splitLine? reader.buffer = some (line, rest))
    (read : reader.frontLine line rest = (result, after)) : after.pending < reader.pending := by
  have shorter := splitLine?_length split
  simp only [frontLine, Prod.mk.injEq] at read
  rw [← read.2]
  simp only [pending]
  omega

private theorem pull_pending {reads : List Read} {reader after : LineReader} {line : String}
    (unread : reader.source.unread = reads)
    (read : reader.pull reads = (.ok (some line), after)) : after.pending < reader.pending := by
  induction reads generalizing reader with
  | nil =>
    have last := lastLine_pending read
    simpa [pending, Source.reportEnd, Source.unreadSize] using last
  | cons first rest step =>
    cases first with
    | failure error => simp [pull] at read
    | stall => simp [pull] at read
    | bytes chunk =>
      have same : ({ reader with
          source := reader.source.advance (.bytes chunk) rest
          buffer := reader.buffer ++ chunk } : LineReader).pending = reader.pending := by
        simp [pending, Source.unreadSize, Source.advance, unread, Read.size]
        omega
      unfold pull at read
      simp only at read
      split at read
      · rename_i split
        exact same ▸ frontLine_pending split read
      · exact same ▸ step rfl read

/-- A line that is handed out was among the bytes buffered or still to come. -/
theorem nextLine_pending {reader after : LineReader} {line : String}
    (read : reader.nextLine = (.ok (some line), after)) : after.pending < reader.pending := by
  unfold nextLine at read
  split at read
  · simp at read
  · rename_i result next raw
    simp only [Prod.mk.injEq, Except.ok.injEq] at read
    rw [read.1, read.2] at raw
    unfold readLine at raw
    split at raw
    · simp at raw
    · split at raw
      · rename_i split
        exact frontLine_pending split raw
      · split at raw
        · exact lastLine_pending raw
        · exact pull_pending rfl raw

end LineReader

end ChatClient
