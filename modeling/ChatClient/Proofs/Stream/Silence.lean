import ChatClient.Proofs.Stream.Operations

/-! What reads tell once a reader has let go of its source. Whatever was the reason, nothing is left
to hand out, and the reads tell the end for as long as nobody has cancelled: each of them looks at the
token before it looks at anything else, so behind a cancellation every single one fails again. -/
namespace ChatClient.StreamSilence
open Json LineReader StreamOperations
open StreamRelease (Held cancel_held)
open Laziness (serve_exhausted)

/-- What a read tells its caller. -/
inductive Told where
  | handed
  | ended
  | failed (error : CallError)
  deriving DecidableEq

/-- What an operation tells, if it is a read. -/
def told? : (op : Op) → op.Answer → Option Told
  | .read _, .ok (some _) => some .handed
  | .read _, .ok none => some .ended
  | .read _, .error error => some (.failed error)
  | _, _ => none

/-- What the reads among some operations have told, in order. -/
def told (done : List Done) : List Told :=
  done.filterMap fun one => told? one.op one.answer

def isRead : Op → Bool
  | .read _ => true
  | _ => false

/-- Whether all reads among some operations are made with a token that is not cancelled. -/
structure ReadsUncancelled (cancelled : Bool) (ops : List Op) : Prop where
  before : cancelled = true → ∀ op ∈ ops, isRead op = false
  between : ops.Pairwise fun earlier later => earlier = .cancel → isRead later = false

/-- What reads tell when there is nothing to hand out: the end, and behind a cancellation that. -/
def silence : Bool → List Op → List Told
  | _, [] => []
  | cancelled, .read _ :: rest =>
    (if cancelled then .failed .cancelled else .ended) :: silence cancelled rest
  | _, .cancel :: rest => silence true rest
  | cancelled, .check :: rest => silence cancelled rest
  | cancelled, .release :: rest => silence cancelled rest

section Silence
variable {cancelled : Bool} {ops : List Op}

/-- With a cancelled token every read fails. -/
private theorem silence_cancelled_iff :
    (∀ one ∈ silence true ops, one = .ended) ↔ ∀ op ∈ ops, isRead op = false := by
  induction ops with
  | nil => simp [silence]
  | cons op rest ih => cases op <;> simp [silence, isRead, ih]

private theorem uncancelled_of_unread (unread : ∀ op ∈ ops, isRead op = false) :
    ReadsUncancelled cancelled ops where
  before _ := unread
  between := List.pairwise_of_forall_mem_list fun _ _ later member _ => unread later member

private theorem mem_silence {one : Told} (member : one ∈ silence cancelled ops) :
    one = .ended ∨ one = .failed .cancelled := by
  induction ops generalizing cancelled with
  | nil => simp [silence] at member
  | cons op rest ih =>
    cases op with
    | read call =>
      rw [silence, List.mem_cons] at member
      rcases member with rfl | later
      · cases cancelled <;> simp
      · exact ih later
    | check => exact ih member
    | release => exact ih member
    | cancel => exact ih member

/-- Where no failure is told nothing but the end is. -/
theorem silence_unfailed_iff :
    (∀ error, .failed error ∉ silence cancelled ops) ↔
      ∀ one ∈ silence cancelled ops, one = .ended := by
  constructor
  · intro unfailed one member
    rcases mem_silence member with ended | failed
    · exact ended
    · exact absurd (failed ▸ member) (unfailed _)
  · intro ended error member
    exact absurd (ended _ member) nofun

/-- Nothing but the end is told exactly if no read is made behind a cancellation. -/
theorem silence_ended_iff :
    (∀ one ∈ silence cancelled ops, one = .ended) ↔ ReadsUncancelled cancelled ops := by
  cases cancelled with
  | true =>
    rw [silence_cancelled_iff]
    exact ⟨uncancelled_of_unread, fun uncancelled => uncancelled.before rfl⟩
  | false =>
    have only : ∀ ops, ReadsUncancelled false ops ↔
        ops.Pairwise fun earlier later => earlier = .cancel → isRead later = false :=
      fun ops => ⟨ReadsUncancelled.between, fun between => ⟨nofun, between⟩⟩
    rw [only]
    induction ops with
    | nil => simp [silence]
    | cons op rest ih =>
      cases op with
      | cancel =>
        simp only [silence, silence_cancelled_iff, List.pairwise_cons, true_implies]
        exact ⟨fun unread => ⟨unread, (only rest).mp (uncancelled_of_unread unread)⟩, And.left⟩
      | read call => simp [silence, ih]
      | check => simp [silence, ih]
      | release => simp [silence, ih]

end Silence

section Runs
variable {reads : List Read} {reader : LineReader}

theorem told_cons (op : Op) (rest : List Op) (reader : LineReader) :
    told (run (op :: rest) reader).1 =
      (told? op (op.perform reader).1).toList ++ told (run rest (op.perform reader).2).1 := by
  rw [run_cons, told, List.filterMap_cons]
  cases told? op (op.perform reader).1 <;> rfl

/-- The reads behind a release tell the end, or the cancellation if there has been one. Nothing that
is done with a released reader changes it, save that its token may be cancelled. -/
theorem run_silent (ops : List Op) (held : Held reader) (released : reader.released = true) :
    told (run ops reader).1 = silence reader.cancelled ops := by
  induction ops generalizing reader with
  | nil => rfl
  | cons op rest ih =>
    have same : reader.release = reader := by rw [LineReader.release, if_pos released]
    rw [told_cons]
    cases op with
    | read call =>
      have served := serve_exhausted call held (held.settled.released_exhausted released)
      rw [same] at served
      simp only [Op.perform, served, silence, ih held released]
      cases reader.cancelled <;> rfl
    | check =>
      have unchanged : (Op.check.perform reader).2 = reader := by
        simp only [Op.perform, checkCancelled, same]
        split <;> rfl
      rw [unchanged, ih held released]
      rfl
    | release =>
      have unchanged : (Op.release.perform reader).2 = reader := same
      rw [unchanged, ih held released]
      rfl
    | cancel => exact ih (cancel_held held) released

private theorem stops_of_told {op : Op} {answer : op.Answer} {one : Told}
    (tells : told? op answer = some one) (unhanded : one ≠ .handed) : op.stops answer = true := by
  cases op with
  | read call =>
    rcases answer with error | _ | content
    · rfl
    · rfl
    · exact absurd (Option.some.inj tells).symm unhanded
  | check => cases tells
  | release => cases tells
  | cancel => cases tells

/-- A read that has told anything but a line or an event has released its reader, for good. -/
theorem run_tells (ops : List Op) (kept : Kept reads reader)
    (stopped : ∃ one ∈ told (run ops reader).1, one ≠ .handed) :
    (run ops reader).2.released = true := by
  induction ops generalizing reader with
  | nil => simp [run, told] at stopped
  | cons op rest ih =>
    have after := perform_kept op kept
    obtain ⟨one, member, unhanded⟩ := stopped
    rw [told_cons, List.mem_append] at member
    rcases member with first | later
    · have stops := stops_of_told (Option.mem_toList.mp first) unhanded
      exact run_released rest after (perform_stops op kept.held stops)
    · exact ih after ⟨one, later, unhanded⟩

/-- Behind a release, whatever its reason, the reads tell nothing but the end exactly if none of them
is made behind a cancellation; each one that is fails with it again. A read that fails is such a
reason, so under the same condition, and no other, its failure is the last that is told. -/
theorem released_reads_end_iff_uncancelled (reads : List Read) (cancelled : Bool)
    (before later : List Op) :
    let done := (run before (.ofReads reads cancelled)).1
    let reader := (run before (.ofReads reads cancelled)).2
    let silent := told (run later reader).1
    (reader.released = true →
        silent = silence reader.cancelled later ∧
          ((∀ one ∈ silent, one = .ended) ↔ ReadsUncancelled reader.cancelled later)) ∧
      ((∃ one ∈ told done, one ≠ .handed) → reader.released = true) ∧
      ((∃ error, .failed error ∈ told done) →
        ((∀ error, .failed error ∉ silent) ↔ ReadsUncancelled reader.cancelled later)) := by
  intro done reader silent
  have start := kept_ofReads reads cancelled
  have kept : Kept reads reader := run_kept before start
  have quiet : reader.released = true → silent = silence reader.cancelled later :=
    run_silent later kept.held
  have stopped : (∃ one ∈ told done, one ≠ .handed) → reader.released = true :=
    run_tells before start
  refine ⟨fun released => ⟨quiet released, ?_⟩, stopped, ?_⟩
  · rw [quiet released]
    exact silence_ended_iff
  · rintro ⟨error, failed⟩
    rw [quiet (stopped ⟨_, failed, nofun⟩), silence_unfailed_iff]
    exact silence_ended_iff

/-- Behind a marker, with lines buffered and a reader that is checked and released once more. -/
theorem marker_followed_by_silence :
    let reads : List Read := [.bytes (Text.Utf8.encode "data: [DONE]\nlate\n")]
    let before : List Op := [.read (.event Decode.value)]
    let later : List Op := [.check, .read .line, .release, .read (.event Decode.value), .cancel]
    let reader := (run before (.ofReads reads false)).2
    (reader.released = true ∧ ReadsUncancelled reader.cancelled later) ∧
      told (run later reader).1 = [.ended, .ended] := by
  intro reads before later reader
  have released : reader.released = true := by decide +kernel
  have going : reader.cancelled = false := by decide +kernel
  have silent := ((released_reads_end_iff_uncancelled reads false before later).1 released).1
  have uncancelled : ReadsUncancelled reader.cancelled later := by
    rw [going]
    exact ⟨nofun, by simp [later, isRead]⟩
  refine ⟨⟨released, uncancelled⟩, silent.trans ?_⟩
  have going : (run before (.ofReads reads false)).2.cancelled = false := going
  rw [going]
  rfl

/-- A reader that has been released by a cancellation fails with it at every read. -/
theorem cancellation_told_at_every_read :
    let reads : List Read := [.bytes (Text.Utf8.encode "line\n")]
    let reader := (run [.cancel, .read .line] (.ofReads reads false)).2
    reader.released = true ∧ told (run [.read .line] reader).1 = [.failed .cancelled] ∧
      told (run [.cancel, .read .line, .read .line] (.ofReads reads false)).1 =
        [.failed .cancelled, .failed .cancelled] := by
  decide +kernel

end Runs

end ChatClient.StreamSilence
