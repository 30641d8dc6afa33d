import ChatClient.Proofs.Stream.Drawing

/-! What can go wrong while a body is read. A stream that is read fails for one of four reasons: its
source reports a failure of its own, the token is cancelled, a line is no text, or a line does not
hold the event it should. A failure is handed out together with a reader whose token tells which. -/
namespace ChatClient.StreamFailures
open Json LineReading LineReader DeltaStream Drawing

/-- Why reading from a source fails, of which these reads were still to come, and which leaves the
token like this. -/
inductive Raised (reads : List Read) (token : Bool) : CallError → Prop where
  | reported (error : CallError) (among : .failure error ∈ reads) : Raised reads token error
  | cancelled (stopped : token = true) : Raised reads token .cancelled
  | notUtf8 (fault : Text.Utf8.Fault) : Raised reads token (.notUtf8 fault)
  | badEvent (fault : Json.Error) (line : String) : Raised reads token (.badEvent fault line)

/-- Whatever a call fails with has such a reason. -/
def FailsFor {α : Type} (reads : List Read) (read : Except CallError α × LineReader) : Prop :=
  ∀ error, read.1 = .error error → Raised reads read.2.cancelled error

section Reasons
variable {reads later : List Read} {token : Bool} {error : CallError}

/-- What has gone wrong behind some reads has gone wrong behind more of them. -/
theorem Raised.earlier (raised : Raised later token error) (within : later ⊆ reads) :
    Raised reads token error := by
  cases raised with
  | reported _ among => exact .reported error (within among)
  | cancelled stopped => exact .cancelled stopped
  | notUtf8 fault => exact .notUtf8 fault
  | badEvent fault line => exact .badEvent fault line

/-- A step leaves reads that were there before it. -/
theorem draws_within {reader after : LineReader} {used : List Read}
    (draws : Draws reader after used) : after.source.unread ⊆ reader.source.unread := by
  rw [draws.unread]
  exact List.subset_append_right used _

end Reasons

section Lines
variable {reader : LineReader} {reads : List Read}

private theorem text_fails {line : List UInt8} {error : CallError} (token : Bool)
    (failed : (lineText line).map some = .error error) : Raised reads token error := by
  unfold lineText at failed
  split at failed
  · cases failed
  · cases failed
    exact .notUtf8 _

private theorem last_line_fails (reader : LineReader) : FailsFor reads reader.lastLine := by
  intro error failed
  unfold LineReader.lastLine at failed
  split at failed
  · cases failed
  · exact text_fails _ failed

/-- Reading on fails with what the source reports, or because of the token, or at the line that it
completes. -/
private theorem pull_fails (reader : LineReader) (reads : List Read) :
    FailsFor reads (reader.pull reads) := by
  induction reads generalizing reader with
  | nil => exact last_line_fails _
  | cons read rest ih =>
    cases read with
    | failure error =>
      rintro _ ⟨⟩
      exact .reported error (List.mem_cons_self ..)
    | stall =>
      rintro _ ⟨⟩
      exact .cancelled rfl
    | bytes chunk =>
      intro error failed
      simp only [pull] at failed ⊢
      split at failed
      · exact text_fails _ failed
      · exact (ih _ error failed).earlier (List.subset_cons_self _ rest)

private theorem read_line_fails (reader : LineReader) :
    FailsFor reader.source.unread reader.readLine := by
  intro error failed
  unfold LineReader.readLine at failed ⊢
  by_cases stopped : reader.cancelled = true
  · simp only [stopped, ↓reduceIte, Except.error.injEq] at failed ⊢
    exact failed ▸ .cancelled (by simp [stopped])
  · simp only [stopped, Bool.false_eq_true, ↓reduceIte] at failed ⊢
    split at failed
    · exact text_fails _ failed
    · by_cases exhausted : reader.exhausted = true
      · simp only [exhausted, ↓reduceIte] at failed ⊢
        exact last_line_fails reader error failed
      · simp only [exhausted, Bool.false_eq_true, ↓reduceIte] at failed ⊢
        exact pull_fails reader _ error failed

theorem next_line_fails (reader : LineReader) : FailsFor reader.source.unread reader.nextLine := by
  intro error failed
  have raised := read_line_fails reader
  unfold LineReader.nextLine at failed ⊢
  cases read : reader.readLine with
  | mk answer after =>
    rw [read] at raised failed
    cases answer with
    | ok line => cases failed
    | error reason =>
      cases failed
      simpa using raised error rfl

theorem next_event_fails {α : Type} (decode : Decoder α) (reader : LineReader) :
    FailsFor reader.source.unread (reader.nextEvent decode) := by
  fun_induction LineReader.nextEvent decode reader with
  | case1 reader error after read =>
    have raised := next_line_fails reader
    rw [read] at raised
    rintro _ ⟨⟩
    exact raised error rfl
  | case2 =>
    rintro _ ⟨⟩
  | case3 reader line after read skipped ih =>
    obtain ⟨used, draws, -⟩ := (next_line_frugal reader).of_run read
    intro error failed
    exact (ih error failed).earlier (draws_within draws.toDraws)
  | case4 =>
    rintro _ ⟨⟩
  | case5 =>
    rintro _ ⟨⟩
  | case6 reader line after read payload carried unmarked error decoded =>
    rintro _ ⟨⟩
    exact .badEvent error line

end Lines

section Deltas

/-- Whatever a stream hands out as a failure has such a reason. -/
def HandsOutFor (reads : List Read) (handed : Item × DeltaStream) : Prop :=
  ∀ failure, handed.1 = .failed failure →
    ∃ error, failure = .call error ∧ Raised reads handed.2.reader.cancelled error

private theorem hand_out_fails (reader : LineReader) (delta : Delta) (rest : List Delta)
    (reads : List Read) : HandsOutFor reads (handOut reader delta rest) := by
  intro failure failed
  simp only [handOut, LineReader.checkCancelled] at failed ⊢
  cases stopped : reader.cancelled with
  | true =>
    simp only [stopped, ↓reduceIte, Item.failed.injEq] at failed ⊢
    exact ⟨.cancelled, failed.symm, .cancelled (by simp [finish, stopped])⟩
  | false =>
    simp only [stopped, Bool.false_eq_true, ↓reduceIte] at failed
    split at failed <;> cases failed

private theorem read_on_fails (reader : LineReader) :
    HandsOutFor reader.source.unread (readOn reader) := by
  fun_induction readOn reader with
  | case1 reader error after read =>
    have raised := next_event_fails Chunk.decode reader
    rw [read] at raised
    rintro _ ⟨⟩
    exact ⟨error, rfl, raised error rfl⟩
  | case2 =>
    rintro _ ⟨⟩
  | case3 reader after chunk read none ih =>
    obtain ⟨used, draws, -⟩ := (next_event_frugal Chunk.decode reader).of_run read
    intro failure failed
    obtain ⟨error, same, raised⟩ := ih failure failed
    exact ⟨error, same, raised.earlier (draws_within draws.toDraws)⟩
  | case4 reader chunk after read delta rest listed => exact hand_out_fails after delta rest _

/-- A stream of deltas fails for these reasons only. -/
theorem next_fails (stream : DeltaStream) :
    HandsOutFor stream.reader.source.unread stream.next := by
  rcases stream with ⟨reader, queued, finished⟩
  cases finished with
  | true => nofun
  | false =>
    cases queued with
    | nil => exact read_on_fails reader
    | cons delta rest => exact hand_out_fails reader delta rest _

/-- What a stream still reads behind an item it would have read before. -/
theorem next_within (stream : DeltaStream) :
    stream.next.2.reader.source.unread ⊆ stream.reader.source.unread := by
  obtain ⟨used, draws, -⟩ := next_draws stream
  exact draws_within draws.toDraws

end Deltas

end ChatClient.StreamFailures
