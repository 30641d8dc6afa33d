import ChatClient.Failure

/-! Byte sources. A source is described by the reads that it will answer with; the counts say how it
has been used, so that laziness and release can be observed. -/

namespace ChatClient

/-- What one read of a source brings. -/
inductive Read where
  | bytes (chunk : List UInt8)
  | failure (error : CallError)
  /-- Nothing comes until the caller cancels. -/
  | stall
  deriving DecidableEq

/-- How many bytes a read brings. -/
def Read.size : Read → Nat
  | .bytes chunk => chunk.length
  | .failure _ => 0
  | .stall => 0

structure Source where
  /-- The reads still to come; after the last one the source is at its end. -/
  unread : List Read
  /-- How many reads have been answered, the end not counted. -/
  pulled : Nat
  /-- How many reads have been asked for. -/
  polls : Nat
  /-- Whether the source has reported its end or a failure. -/
  ended : Bool
  dropped : Bool
  deriving DecidableEq

namespace Source

def ofReads (reads : List Read) : Source :=
  ⟨reads, 0, 0, false, false⟩

/-- How many bytes are still to come. -/
def unreadSize (source : Source) : Nat :=
  source.unread.foldr (fun read size => read.size + size) 0

/-- The source after a read has been answered and `rest` is still to come. -/
def advance (source : Source) (read : Read) (rest : List Read) : Source :=
  { source with
    unread := rest
    pulled := source.pulled + 1
    polls := source.polls + 1
    ended := match read with
      | .failure _ => true
      | _ => source.ended }

/-- The source after it has reported its end. -/
def reportEnd (source : Source) : Source :=
  { source with polls := source.polls + 1, ended := true }

def drop (source : Source) : Source :=
  { source with dropped := true }

end Source

end ChatClient
