import ChatClient.Completion.Delta
import ChatClient.Stream.Event

/-! A stream of deltas, read as far as it is asked for. It ends with its source, at the end marker,
or right after the first final delta; what lies behind that is never read. The source has been
released whenever the last item is handed out. -/

namespace ChatClient

/-- What a stream hands out when it is asked for its next item. -/
inductive Item where
  | delta (d : Delta)
  | failed (error : ClientError)
  | ended
  deriving DecidableEq

namespace Item

/-- Whether nothing but the end can follow. -/
def isLast : Item → Bool
  | .delta d => d.isFinal
  | .failed _ => true
  | .ended => true

end Item

structure DeltaStream where
  reader : LineReader
  /-- Deltas of the event read last that were not handed out yet. -/
  queued : List Delta
  finished : Bool
  deriving DecidableEq

namespace DeltaStream

def ofReader (reader : LineReader) : DeltaStream :=
  ⟨reader, [], false⟩

def ofReads (reads : List Read) (cancelled : Bool) : DeltaStream :=
  .ofReader (.ofReads reads cancelled)

/-- Cancels on behalf of the caller. -/
def cancel (stream : DeltaStream) : DeltaStream :=
  { stream with reader := stream.reader.cancel }

/-- The stream after its last item. -/
def finish (reader : LineReader) : DeltaStream :=
  ⟨reader, [], true⟩

/-- Hands out the first of the deltas at hand, unless the caller has cancelled. A final one is the
last. -/
def handOut (reader : LineReader) (delta : Delta) (rest : List Delta) : Item × DeltaStream :=
  match reader.checkCancelled with
  | (.error error, after) => (.failed (.call error), finish after)
  | (.ok _, after) =>
    if delta.isFinal then (.delta delta, finish after.release)
    else (.delta delta, ⟨after, rest, false⟩)

/-- Reads events until one has a delta to hand out. -/
def readOn (reader : LineReader) : Item × DeltaStream :=
  match _read : reader.nextEvent Chunk.decode with
  | (.error error, after) => (.failed (.call error), finish after)
  | (.ok none, after) => (.ended, finish after)
  | (.ok (some chunk), after) =>
    match chunk.deltas with
    | [] => readOn after
    | delta :: rest => handOut after delta rest
termination_by reader.pending
decreasing_by exact LineReader.nextEvent_pending _read

/-- The next item. After the last one only the end follows. -/
def next (stream : DeltaStream) : Item × DeltaStream :=
  if stream.finished then (.ended, stream)
  else
    match stream.queued with
    | delta :: rest => handOut stream.reader delta rest
    | [] => readOn stream.reader

end DeltaStream

end ChatClient
