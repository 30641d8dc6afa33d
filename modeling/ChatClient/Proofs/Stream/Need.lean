import Mathlib.Order.Bounds.Basic
import ChatClient.Proofs.Stream.Calls

/-! How many reads a line takes. A line with a line feed needs just the reads up to the one that
brings the feed, and behind a call exactly those have been pulled that the last line it took needs:
a reader asks for more only while no feed is buffered. Lines are counted from one, over all calls
made on a reader. -/
namespace ChatClient.StreamNeed
open Json StreamLines LineReading LineReader StreamCalls StreamPayloads

/-- How many line feeds the first reads bring. -/
def feedsIn (reads : List Read) (count : Nat) : Nat :=
  (bytesOf (reads.take count)).count 10

/-- How many reads there are up to the first that is no chunk, which still counts. -/
def extent : List Read → Nat
  | [] => 0
  | .bytes _ :: rest => extent rest + 1
  | _ => 1

/-- How many reads it takes to find the line with this number: the least that bring its feed, and
all there are if no feed ends it. -/
structure Needed (reads : List Read) (number count : Nat) : Prop where
  closed : number ≤ (bytesOf reads).count 10 → IsLeast {k | number ≤ feedsIn reads k} count
  unclosed : (bytesOf reads).count 10 < number → count = extent reads

section Scripts
variable {reads rest : List Read} {chunks : List (List UInt8)} {taken : Nat}

theorem bytes_append (chunks : List (List UInt8)) (rest : List Read) :
    bytesOf (chunks.map .bytes ++ rest) = chunks.flatten ++ bytesOf rest := by
  induction chunks with
  | nil => rfl
  | cons chunk chunks ih => simp [bytesOf, ih]

theorem extent_append (chunks : List (List UInt8)) (rest : List Read) :
    extent (chunks.map .bytes ++ rest) = chunks.length + extent rest := by
  induction chunks with
  | nil => simp
  | cons chunk chunks ih =>
    simp only [List.map_cons, List.cons_append, extent, ih, List.length_cons]
    omega

/-- The whole script is within reach of a reader if nothing but chunks is on it. -/
theorem extent_of_clean (clean : closeOf reads = .clean) : extent reads = reads.length := by
  induction reads with
  | nil => rfl
  | cons read rest ih =>
    cases read with
    | bytes chunk => simp [extent, ih clean]
    | failure error => cases clean
    | stall => cases clean

theorem feeds_mono {count more : Nat} (within : count ≤ more) :
    feedsIn reads count ≤ feedsIn reads more := by
  have grows : ∀ {less whole : List Read}, less <+: whole → bytesOf less <+: bytesOf whole := by
    intro less whole front
    induction less generalizing whole with
    | nil => exact List.nil_prefix
    | cons read less ih =>
      obtain ⟨rest, rfl⟩ := front
      cases read with
      | bytes chunk => exact (List.prefix_append_right_inj chunk).mpr (ih ⟨rest, rfl⟩)
      | failure error => exact List.nil_prefix
      | stall => exact List.nil_prefix
  exact (grows (List.take_prefix_take_left within)).sublist.count_le 10

theorem feeds_of_chunks (script : reads = chunks.map .bytes ++ rest) :
    feedsIn reads chunks.length = chunks.flatten.count 10 := by
  have front : reads.take chunks.length = chunks.map .bytes ++ [] := by
    rw [script, List.append_nil, List.take_left' (List.length_map _)]
  rw [feedsIn, front, bytes_append]
  simp [bytesOf]

/-- The line behind those taken needs what has been pulled if its feed is among the bytes pulled,
and all pulled before it brought no more feeds than the lines taken. -/
theorem needed_of_feeds (script : reads = chunks.map .bytes ++ rest)
    (brought : taken < chunks.flatten.count 10)
    (before : ∀ count < chunks.length, feedsIn reads count ≤ taken) :
    Needed reads (taken + 1) chunks.length where
  closed _ := by
    refine ⟨?_, ?_⟩
    · rw [Set.mem_ofPred_eq, feeds_of_chunks script]
      exact brought
    · intro count enough
      rw [Set.mem_ofPred_eq] at enough
      by_contra short
      have few := before count (Nat.lt_of_not_le short)
      omega
  unclosed few := by
    rw [script, bytes_append, List.count_append] at few
    omega

/-- Where the chunk that comes next brings the first feed behind those of the lines taken, the next
line needs it and nothing behind it. -/
theorem needed_of_chunk {chunk : List UInt8} (script : reads = chunks.map .bytes ++ .bytes chunk :: rest)
    (fed : chunks.flatten.count 10 = taken)
    (brings : taken < (chunks ++ [chunk]).flatten.count 10) :
    Needed reads (taken + 1) (chunks.length + 1) := by
  have longer : reads = (chunks ++ [chunk]).map .bytes ++ rest := by simp [script]
  have needed : Needed reads (taken + 1) (chunks ++ [chunk]).length := by
    refine needed_of_feeds longer brings fun count less => ?_
    rw [← fed, ← feeds_of_chunks script]
    rw [List.length_append, List.length_singleton] at less
    exact feeds_mono (Nat.le_of_lt_succ less)
  rwa [List.length_append] at needed

/-- Where no bytes come any more, the next line needs all that comes until then. -/
theorem needed_of_rest (script : reads = chunks.map .bytes ++ rest) (dry : bytesOf rest = [])
    (fed : chunks.flatten.count 10 = taken) :
    Needed reads (taken + 1) (chunks.length + extent rest) := by
  have all : (bytesOf reads).count 10 = taken := by
    rw [script, bytes_append, dry, List.append_nil, fed]
  have reach : extent reads = chunks.length + extent rest := by rw [script, extent_append]
  exact ⟨fun enough => absurd enough (by omega), fun _ => reach.symm⟩

end Scripts

/-- What has been pulled for a reader behind so many lines: nothing but chunks, of which the feeds
that do not stand in the buffer belong to lines taken, and no more than the last line needs. -/
structure Tally (reads : List Read) (taken : Nat) (reader : LineReader) : Prop where
  pulled : ∃ chunks : List (List UInt8), reads = chunks.map .bytes ++ reader.source.unread ∧
    reader.source.pulled = chunks.length ∧
    (reader.exhausted = false → chunks.flatten.count 10 = taken + reader.buffer.count 10)
  needed : Needed reads taken reader.source.pulled

/-- A reader that may be asked for more lines, behind so many. -/
structure Stands (reads : List Read) (taken : Nat) (reader : LineReader) : Prop where
  settled : Settled reader
  going : reader.cancelled = false
  held : reader.released = false
  tally : Tally reads taken reader

section Readers
variable {reads : List Read} {taken : Nat} {reader : LineReader}

theorem stands_ofReads (reads : List Read) : Stands reads 0 (.ofReads reads false) where
  settled := settled_ofReads reads false
  going := rfl
  held := rfl
  tally := by
    refine ⟨⟨[], rfl, rfl, fun _ => rfl⟩, ?_, ?_⟩
    · intro _
      exact ⟨Nat.zero_le _, fun _ _ => Nat.zero_le _⟩
    · intro none
      exact absurd none (Nat.not_lt_zero _)

@[simp] theorem release_pulled : reader.release.source.pulled = reader.source.pulled := by
  unfold LineReader.release
  split <;> rfl

/-- What a call must leave that took one more line. -/
private structure Brings (reads : List Read) (taken : Nat) (answer : Except CallError (Option String))
    (after : LineReader) : Prop where
  needed : Needed reads (taken + 1) after.source.pulled
  tally : handsOut answer = true → Tally reads (taken + 1) after

/-- Reading on pulls chunks until one brings a feed. Up to it no feed has come that does not belong
to the lines taken, so none of the reads can be spared. -/
private theorem pull_brings (rest : List Read) (reader : LineReader)
    (chunks : List (List UInt8)) (script : reads = chunks.map .bytes ++ rest)
    (pulled : reader.source.pulled = chunks.length) (unread : reader.source.unread = rest)
    (fed : chunks.flatten.count 10 = taken) (noFeed : (10 : UInt8) ∉ reader.buffer) :
    Brings reads taken (reader.pull rest).1 (reader.pull rest).2 := by
  induction rest generalizing reader chunks with
  | nil =>
    have needed : Needed reads (taken + 1) reader.source.pulled :=
      pulled ▸ needed_of_rest script rfl fed
    simp only [pull, LineReader.lastLine]
    cases reader.buffer.isEmpty with
    | true => exact ⟨by simpa [Source.reportEnd] using needed, by simp [handsOut]⟩
    | false =>
      exact ⟨needed, fun _ => ⟨⟨chunks, by rw [script]; simp [Source.reportEnd, unread], pulled,
        by simp⟩, needed⟩⟩
  | cons read rest ih =>
    cases read with
    | failure error =>
      refine ⟨?_, by simp [pull, handsOut]⟩
      simp only [pull, Source.advance, pulled]
      exact needed_of_rest script rfl fed
    | stall =>
      refine ⟨?_, by simp [pull, handsOut]⟩
      simp only [pull, Source.advance, pulled]
      exact needed_of_rest script rfl fed
    | bytes chunk =>
      have longer : reads = (chunks ++ [chunk]).map .bytes ++ rest := by simp [script]
      have counted : reader.source.pulled + 1 = (chunks ++ [chunk]).length := by simp [pulled]
      have filled : (chunks ++ [chunk]).flatten.count 10 =
          taken + (reader.buffer ++ chunk).count 10 := by
        simp [List.flatten_append, fed, List.count_eq_zero_of_not_mem noFeed]
      simp only [pull]
      split
      · rename_i line behind split
        obtain ⟨whole, unfed⟩ := split_line_some split
        have total : (chunks ++ [chunk]).flatten.count 10 = taken + 1 + behind.count 10 := by
          rw [filled, whole, List.count_append, List.count_cons_self,
            List.count_eq_zero_of_not_mem unfed]
          omega
        have needed : Needed reads (taken + 1) (reader.source.pulled + 1) :=
          pulled ▸ needed_of_chunk script fed (by omega)
        exact ⟨needed, fun _ => ⟨⟨_, longer, counted, fun _ => total⟩, needed⟩⟩
      · rename_i split
        have unfed := split_line_none split
        rw [List.count_eq_zero_of_not_mem unfed, Nat.add_zero] at filled
        exact ih _ _ longer counted rfl filled unfed

private theorem read_line_brings (stands : Stands reads taken reader)
    (found : ahead reader ≠ []) :
    Brings reads taken reader.readLine.1 reader.readLine.2 := by
  have reading : reader.exhausted = false := by
    rw [← Bool.not_eq_true]
    intro exhausted
    exact found (by simp [ahead, exhausted])
  obtain ⟨⟨chunks, script, pulled, fed⟩, needed⟩ := stands.tally
  have fed := fed reading
  simp only [LineReader.readLine, stands.going, reading, Bool.false_eq_true, ↓reduceIte]
  split
  · rename_i line behind split
    obtain ⟨whole, unfed⟩ := split_line_some split
    have total : chunks.flatten.count 10 = taken + 1 + behind.count 10 := by
      rw [whole, List.count_append, List.count_cons_self,
        List.count_eq_zero_of_not_mem unfed] at fed
      omega
    have next : Needed reads (taken + 1) reader.source.pulled := by
      rw [pulled]
      refine needed_of_feeds script (by omega) fun count less => ?_
      have enough : taken ≤ (bytesOf reads).count 10 := by
        rw [script, bytes_append, List.count_append]
        omega
      by_contra more
      have least := (needed.closed enough).2 (show taken ≤ feedsIn reads count by omega)
      omega
    exact ⟨next, fun _ => ⟨⟨chunks, script, pulled, fun _ => total⟩, next⟩⟩
  · rename_i split
    have noFeed := split_line_none split
    rw [List.count_eq_zero_of_not_mem noFeed] at fed
    exact pull_brings reader.source.unread reader chunks script pulled rfl fed noFeed

/-- A call for a line has pulled what that line needs. -/
theorem next_line_stands (stands : Stands reads taken reader) (found : ahead reader ≠ []) :
    Needed reads (taken + 1) reader.nextLine.2.source.pulled ∧
      (handsOut reader.nextLine.1 = true → Stands reads (taken + 1) reader.nextLine.2) := by
  have brings := read_line_brings stands found
  have served := (next_line_served stands.settled stands.going).2
  unfold LineReader.nextLine at served ⊢
  cases read : reader.readLine with
  | mk answer after =>
    rw [read] at brings served
    cases answer with
    | error error => exact ⟨by simpa using brings.needed, by simp [handsOut]⟩
    | ok line =>
      refine ⟨brings.needed, fun handed => ⟨served.settled, served.going line rfl, ?_, ?_⟩⟩
      · simpa [handed] using served.released
      · exact brings.tally handed

end Readers

section Calls
variable {reads : List Read} {taken : Nat} {reader : LineReader} {call : Call}
  {first : Line} {rest lines : List Line}

theorem share_passed (passed : call.passes first = true) :
    call.share (first :: rest) = first :: call.share rest := by
  simp [Call.share, passed]

theorem share_acted (acted : call.passes first = false) :
    call.share (first :: rest) = [first] := by
  simp [Call.share, acted]

/-- Whether there is a line among these that a call does not pass over. -/
def Finds (call : Call) (lines : List Line) : Prop :=
  ∃ line ∈ lines, call.passes line = false

theorem finds_of_answer (told : call.answer lines ≠ .ok none) : Finds call lines := by
  unfold Call.answer at told
  split at told
  · exact absurd rfl told
  · rename_i first rest found
    have member : first ∈ lines.dropWhile call.passes := by simp [found]
    have stop := List.head?_dropWhile_not call.passes lines
    rw [found] at stop
    exact ⟨first, (List.dropWhile_sublist _).subset member, by simpa using stop⟩

/-- What a call must leave that took its share of the lines ahead. -/
structure Shares (reads : List Read) (taken : Nat) (call : Call) (lines : List Line)
    (answer : call.Answer) (after : LineReader) : Prop where
  needed : Finds call lines → Needed reads (taken + (call.share lines).length) after.source.pulled
  stands : handsOut answer = true → Stands reads (taken + (call.share lines).length) after

/-- A call for an event has pulled what the line needs that it acts on, be it handed out, refused or
the marker. The induction follows the reader over the lines that it passes. -/
theorem next_event_shares {α : Type} (decode : Decoder α) (stands : Stands reads taken reader) :
    Shares reads taken (.event decode) (ahead reader) (reader.nextEvent decode).1
      (reader.nextEvent decode).2 := by
  fun_induction LineReader.nextEvent decode reader generalizing taken with
  | case1 reader error after read =>
    have told := ahead_of_failure stands.settled stands.going read
    have brought := next_line_stands stands (by simp [told])
    rw [read] at brought
    rw [told]
    exact ⟨fun _ => brought.1, by simp [handsOut]⟩
  | case2 reader after read =>
    rw [ahead_of_end stands.settled stands.going read]
    exact ⟨by simp [Finds], by simp [handsOut]⟩
  | case3 reader line after read skipped ih =>
    have told := ahead_of_line stands.settled stands.going read
    have brought := next_line_stands stands (by simp [told])
    rw [read] at brought
    have later := ih (brought.2 rfl)
    rw [payload_eq_content] at skipped
    have passed : (Call.event decode).passes (.ok line) = true := event_passed skipped
    have length : taken + ((Call.event decode).share (.ok line :: ahead after)).length =
        taken + 1 + ((Call.event decode).share (ahead after)).length := by
      rw [share_passed passed, List.length_cons]
      omega
    rw [told]
    refine ⟨?_, fun handed => length ▸ later.stands handed⟩
    rintro ⟨found, member, acted⟩
    rcases List.mem_cons.mp member with rfl | member
    · simp [passed] at acted
    · exact length ▸ later.needed ⟨found, member, acted⟩
  | case4 reader line after read marked =>
    have told := ahead_of_line stands.settled stands.going read
    have brought := next_line_stands stands (by simp [told])
    rw [read] at brought
    rw [payload_eq_content] at marked
    have acted : (Call.event decode).passes (.ok line) = false := event_acted marked
    rw [told]
    exact ⟨fun _ => by simpa [share_acted acted] using brought.1, by simp [handsOut]⟩
  | case5 reader line after read payload carried unmarked event decoded =>
    have told := ahead_of_line stands.settled stands.going read
    have brought := next_line_stands stands (by simp [told])
    rw [read] at brought
    rw [payload_eq_content] at carried
    have acted : (Call.event decode).passes (.ok line) = false := event_acted carried
    rw [told]
    exact ⟨fun _ => by simpa [share_acted acted] using brought.1,
      fun _ => by simpa [share_acted acted] using brought.2 rfl⟩
  | case6 reader line after read payload carried unmarked error decoded =>
    have told := ahead_of_line stands.settled stands.going read
    have brought := next_line_stands stands (by simp [told])
    rw [read] at brought
    rw [payload_eq_content] at carried
    have acted : (Call.event decode).passes (.ok line) = false := event_acted carried
    rw [told]
    exact ⟨fun _ => by simpa [share_acted acted] using brought.1, by simp [handsOut]⟩

theorem serve_shares (call : Call) (stands : Stands reads taken reader) :
    Shares reads taken call (ahead reader) (call.serve reader).1 (call.serve reader).2 := by
  cases call with
  | event decode => exact next_event_shares decode stands
  | line =>
    cases found : ahead reader with
    | nil =>
      have answered := (next_line_served stands.settled stands.going).1
      rw [found] at answered
      exact ⟨by simp [Finds], by simp [Call.serve, answered, answerTo, handsOut]⟩
    | cons first rest =>
      have brought := next_line_stands stands (by simp [found])
      exact ⟨fun _ => brought.1, brought.2⟩

/-- The lines ahead once the calls have been made. -/
def leftBy (calls : List Call) (lines : List Line) : List Line :=
  calls.foldl (fun lines call => call.leaves lines) lines

theorem left_by_nil (calls : List Call) : leftBy calls [] = [] := by
  induction calls with
  | nil => rfl
  | cons call rest ih => exact ih

/-- Whatever calls were made before, a call has pulled what the line needs that it acts on: that is
the line whose number is how many all calls have taken together. -/
theorem run_needed (calls : List Call) (call : Call) (stands : Stands reads taken reader)
    (found : Finds call (leftBy calls (ahead reader))) :
    Needed reads (taken + (shares (calls ++ [call]) (ahead reader)).flatten.length)
      (call.serve (run calls reader).2).2.source.pulled := by
  induction calls generalizing taken reader with
  | nil =>
    have shared := serve_shares call stands
    simpa [run, shares] using shared.needed found
  | cons earlier rest ih =>
    have shared := serve_shares earlier stands
    obtain ⟨answered, served⟩ := serve_served earlier stands.settled stands.going
    cases handed : handsOut (earlier.serve reader).1 with
    | true =>
      have later := ih (shared.stands handed) (by rw [served.left]; exact found)
      rw [served.left] at later
      simpa [run, shares, Nat.add_assoc] using later
    | false =>
      -- Behind a call that handed nothing out there is no line left to find.
      have none : earlier.leaves (ahead reader) = [] := by
        rw [answered] at handed
        simp [Call.leaves, handed]
      obtain ⟨line, member, -⟩ := found
      rw [leftBy, List.foldl_cons, none, ← leftBy, left_by_nil] at member
      simp at member

end Calls

end ChatClient.StreamNeed
